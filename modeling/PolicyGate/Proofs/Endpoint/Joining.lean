import PolicyGate.Proofs.Client
import PolicyGate.Proofs.Endpoint
import PolicyGate.Proofs.Gate.Course

/-!
# Endpoints — one slash at every joint

Joining goes by what two texts are without the slashes at the joint. Of
three texts it does not matter which joint is made first
(`join_join`), also where the text in the middle is nothing but slashes
and there is one joint only. A gate therefore does the same whether the
beginning of a path is set with the address or with the policy.
-/

namespace PolicyGate

namespace Endpoint

/-- A text of `n` slashes. -/
def slashes (n : Nat) : String := String.ofList (List.replicate n '/')

/-- `base` is `b`, which does not end in a slash, followed by slashes. -/
structure EndsBare (b base : String) : Prop where
  followed : ∃ n, base = b ++ slashes n
  bare : b.toList.getLast? ≠ some '/'

/-- `path` is `p`, which does not start with a slash, behind slashes. -/
structure StartsBare (p path : String) : Prop where
  behind : ∃ n, path = slashes n ++ p
  bare : p.toList.head? ≠ some '/'

/-! ## Trimming at the start -/

theorem trimStart_eq_nil_iff {cs : List Char} : trimStart cs = [] ↔ ∀ c ∈ cs, c = '/' := by
  simp [trimStart]

theorem trimStart_append (cs ds : List Char) :
    trimStart (cs ++ ds) = if trimStart cs = [] then trimStart ds else trimStart cs ++ ds := by
  simp only [trimStart, List.dropWhile_append, List.isEmpty_iff]
  rfl

theorem trimStart_replicate_append (n : Nat) (cs : List Char) :
    trimStart (List.replicate n '/' ++ cs) = trimStart cs := by
  rw [trimStart_append, if_pos (trimStart_eq_nil_iff.mpr fun c hc => List.eq_of_mem_replicate hc)]

theorem trimStart_eq_self {cs : List Char} (h : cs.head? ≠ some '/') : trimStart cs = cs := by
  cases cs with
  | nil => rfl
  | cons c cs =>
    have hc : c ≠ '/' := by simpa using h
    simp [trimStart, hc]

theorem head?_trimStart (cs : List Char) : (trimStart cs).head? ≠ some '/' := by
  intro h
  obtain ⟨ds, hds⟩ := List.head?_eq_some_iff.mp h
  exact trimStart_ne_cons cs ds hds

theorem exists_replicate_append_trimStart (cs : List Char) :
    ∃ n, cs = List.replicate n '/' ++ trimStart cs := by
  have hslashes : ∀ c ∈ cs.takeWhile (· == '/'), c = '/' := by
    intro c hc
    simpa using List.mem_takeWhile_imp hc
  refine ⟨(cs.takeWhile (· == '/')).length, ?_⟩
  rw [← List.eq_replicate_of_mem hslashes, trimStart, List.takeWhile_append_dropWhile]

/-! ## Trimming at the end -/

theorem trimEnd_append_replicate (n : Nat) (cs : List Char) :
    trimEnd (cs ++ List.replicate n '/') = trimEnd cs := by
  rw [trimEnd_append, if_pos (trimEnd_eq_nil_iff.mpr fun c hc => List.eq_of_mem_replicate hc)]

theorem trimEnd_eq_self {cs : List Char} (h : cs.getLast? ≠ some '/') : trimEnd cs = cs := by
  rw [← List.head?_reverse] at h
  rw [trimEnd, trimStart_eq_self h, List.reverse_reverse]

theorem getLast?_trimEnd (cs : List Char) : (trimEnd cs).getLast? ≠ some '/' := by
  rw [trimEnd, List.getLast?_reverse]
  exact head?_trimStart cs.reverse

theorem exists_trimEnd_append_replicate (cs : List Char) :
    ∃ n, cs = trimEnd cs ++ List.replicate n '/' := by
  obtain ⟨n, hn⟩ := exists_replicate_append_trimStart cs.reverse
  refine ⟨n, ?_⟩
  rw [trimEnd, ← List.reverse_replicate, ← List.reverse_append, ← hn, List.reverse_reverse]

/-- Trimming at the end leaves the start, or nothing. -/
theorem head?_trimEnd {cs : List Char} (h : cs.head? ≠ some '/') :
    (trimEnd cs).head? ≠ some '/' := by
  obtain ⟨n, hn⟩ := exists_trimEnd_append_replicate cs
  cases he : trimEnd cs with
  | nil => simp
  | cons c ds =>
    rw [hn, he] at h
    simpa using h

/-- It does not matter at which end slashes are trimmed first. -/
theorem trimStart_trimEnd (cs : List Char) :
    trimStart (trimEnd cs) = trimEnd (trimStart cs) := by
  obtain ⟨n, hn⟩ := exists_replicate_append_trimStart cs
  have hstart : trimStart (trimEnd (trimStart cs)) = trimEnd (trimStart cs) :=
    trimStart_eq_self (head?_trimEnd (head?_trimStart cs))
  by_cases hnil : trimEnd (trimStart cs) = []
  · have hall : trimEnd cs = [] := by
      rw [hn, trimEnd_append, if_pos hnil]
      exact trimEnd_eq_nil_iff.mpr fun c hc => List.eq_of_mem_replicate hc
    rw [hall, hnil]
    rfl
  · have hend : trimEnd cs = List.replicate n '/' ++ trimEnd (trimStart cs) := by
      conv_lhs => rw [hn, trimEnd_append, if_neg hnil]
    rw [hend, trimStart_replicate_append, hstart]

/-! ## Joining -/

theorem joinChars_append_replicate (m n : Nat) (base path : List Char) :
    joinChars (base ++ List.replicate m '/') (List.replicate n '/' ++ path) =
      joinChars base path := by
  rw [joinChars, trimEnd_append_replicate, trimStart_replicate_append, joinChars]

theorem trimEnd_joinChars (base path : List Char) :
    trimEnd (joinChars base path) =
      if trimStart path = [] then trimEnd base
      else trimEnd base ++ '/' :: trimEnd (trimStart path) := by
  have hbase : trimEnd (trimEnd base) = trimEnd base := trimEnd_eq_self (getLast?_trimEnd base)
  by_cases hpath : trimStart path = []
  · -- the slash of the joint is at the end now
    have hslash : trimEnd ['/'] = [] := rfl
    rw [joinChars, hpath, if_pos rfl, trimEnd_append, if_pos hslash, hbase]
  · have hne : trimEnd (trimStart path) ≠ [] := by
      intro hnil
      apply hpath
      rw [← trimStart_eq_self (head?_trimStart path)]
      exact trimStart_eq_nil_iff.mpr (trimEnd_eq_nil_iff.mp hnil)
    rw [joinChars, if_neg hpath, ← List.singleton_append (x := '/'), ← List.append_assoc,
      trimEnd_append, if_neg hne, List.append_assoc, List.singleton_append]

theorem trimStart_joinChars (base path : List Char) :
    trimStart (joinChars base path) =
      if trimEnd base = [] then trimStart path
      else trimStart (trimEnd base) ++ '/' :: trimStart path := by
  have hpath : trimStart (trimStart path) = trimStart path :=
    trimStart_eq_self (head?_trimStart path)
  by_cases hbase : trimEnd base = []
  · -- the slash of the joint is at the start now
    rw [joinChars, hbase, if_pos rfl, List.nil_append]
    exact hpath
  · have hne : trimStart (trimEnd base) ≠ [] := by
      intro hnil
      apply hbase
      rw [← trimEnd_eq_self (getLast?_trimEnd base)]
      exact trimEnd_eq_nil_iff.mpr (trimStart_eq_nil_iff.mp hnil)
    rw [joinChars, trimStart_append, if_neg hne, if_neg hbase]

theorem joinChars_joinChars (a b c : List Char) :
    joinChars (joinChars a b) c = joinChars a (joinChars b c) := by
  rw [joinChars, trimEnd_joinChars, joinChars.eq_1 a, trimStart_joinChars, trimStart_trimEnd]
  by_cases hb : trimStart b = []
  · have hb' : trimEnd b = [] := trimEnd_eq_nil_iff.mpr (trimStart_eq_nil_iff.mp hb)
    rw [if_pos hb, if_pos hb']
  · have hb' : trimEnd b ≠ [] := fun h => hb (trimStart_eq_nil_iff.mpr (trimEnd_eq_nil_iff.mp h))
    rw [if_neg hb, if_neg hb', List.append_assoc, List.cons_append]

section Join

variable {base path b p : String}

theorem StartsBare.eq (h : StartsBare p path) : p = String.ofList (trimStart path.toList) := by
  obtain ⟨⟨n, rfl⟩, hbare⟩ := h
  rw [String.toList_append, slashes, String.toList_ofList, trimStart_replicate_append,
    trimStart_eq_self hbare, String.ofList_toList]

theorem EndsBare.eq (h : EndsBare b base) : b = String.ofList (trimEnd base.toList) := by
  obtain ⟨⟨n, rfl⟩, hbare⟩ := h
  rw [String.toList_append, slashes, String.toList_ofList, trimEnd_append_replicate,
    trimEnd_eq_self hbare, String.ofList_toList]

theorem startsBare_trimStart (path : String) :
    StartsBare (String.ofList (trimStart path.toList)) path := by
  obtain ⟨n, hn⟩ := exists_replicate_append_trimStart path.toList
  refine ⟨⟨n, ?_⟩, by rw [String.toList_ofList]; exact head?_trimStart _⟩
  rw [slashes, ← String.ofList_append, ← hn, String.ofList_toList]

theorem endsBare_trimEnd (base : String) :
    EndsBare (String.ofList (trimEnd base.toList)) base := by
  obtain ⟨n, hn⟩ := exists_trimEnd_append_replicate base.toList
  refine ⟨⟨n, ?_⟩, by rw [String.toList_ofList]; exact getLast?_trimEnd _⟩
  rw [slashes, ← String.ofList_append, ← hn, String.ofList_toList]

theorem join_of_bare (hb : EndsBare b base) (hp : StartsBare p path) :
    join base path = b ++ "/" ++ p := by
  rw [hb.eq, hp.eq, ← String.toList_inj, toList_join]
  simp

theorem join_slashes (m n : Nat) (base path : String) :
    join (base ++ slashes m) (slashes n ++ path) = join base path := by
  simp only [join, slashes, String.toList_append, String.toList_ofList,
    joinChars_append_replicate]

theorem join_join (a b c : String) : join (join a b) c = join a (join b c) := by
  simp only [join, String.toList_ofList, joinChars_joinChars]

end Join

end Endpoint

/-! ## The gate at a joined address -/

theorem Client.http_congr (service : Service) {d d' : Dispatch} (hurl : d'.url = d.url)
    (hbody : d'.body = d.body) : Client.http service d' = Client.http service d := by
  funext received
  unfold Dispatch.url at hurl
  simp only [Client.http, hurl, hbody]

namespace Gate

/-- The gate with another address and another policy. -/
def addressed {σ : Type} (g : Gate σ) (url policyLocation : String) : Gate σ :=
  { g with settings := { g.settings with url := url, policyLocation := policyLocation } }

/-- Over HTTP the gate goes by the joined address alone. -/
theorem evaluate_addressed {service : Service} {g : Gate (List HttpRequest)}
    (hclient : g.client = .http service) {url url' location location' : String}
    (hurl : Endpoint.join url' location' = Endpoint.join url location) (p : Pipeline)
    (received : List HttpRequest) :
    ((g.addressed url' location').evaluate p received).outcome =
        ((g.addressed url location).evaluate p received).outcome ∧
      ((g.addressed url' location').evaluate p received).client =
        ((g.addressed url location).evaluate p received).client := by
  have hexchange : ∀ request, g.client ((g.addressed url' location').dispatch request) =
      g.client ((g.addressed url location).dispatch request) := by
    intro request
    rw [hclient]
    exact Client.http_congr service hurl rfl
  cases hen : g.settings.enabled with
  | false =>
    rw [evaluate_disabled (g := g.addressed url location) hen,
      evaluate_disabled (g := g.addressed url' location') hen]
    exact ⟨rfl, rfl⟩
  | true =>
    cases hb : (g.built p).result with
    | error e =>
      rw [evaluate_unbuilt (g := g.addressed url location) hen hb,
        evaluate_unbuilt (g := g.addressed url' location') hen hb]
      exact ⟨rfl, rfl⟩
    | ok request =>
      have hsame := congrFun (hexchange request) received
      cases ha : (g.client ((g.addressed url location).dispatch request) received).answer with
      | error e =>
        rw [evaluate_unsent (g := g.addressed url location) hen hb ha,
          evaluate_unsent (g := g.addressed url' location') hen hb (hsame ▸ ha)]
        exact ⟨rfl, congrArg Exchange.client hsame⟩
      | ok reply =>
        rw [evaluate_replied (g := g.addressed url location) hen hb ha,
          evaluate_replied (g := g.addressed url' location') hen hb (hsame ▸ ha)]
        exact ⟨rfl, congrArg Exchange.client hsame⟩

end Gate

/-- **One slash at every joint**: an address joined to a path is what
both are without the slashes at the joint and one slash in between, so
that slashes added there change nothing; and of three texts it does not
matter which joint is made first, so that the gate does the same whether
a path in the middle is set with the address or with the policy. -/
theorem Endpoint.join_oneSlash (base path : String) :
    (∃! b, EndsBare b base) ∧ (∃! p, StartsBare p path) ∧
      (∀ b p, EndsBare b base → StartsBare p path → join base path = b ++ "/" ++ p) ∧
      (∀ m n, join (base ++ slashes m) (slashes n ++ path) = join base path) ∧
      (∀ c, join (join base path) c = join base (join path c)) ∧
      ∀ (service : Service) (g : Gate (List HttpRequest)), g.client = .http service →
        ∀ c p received,
          ((g.addressed (join base path) c).evaluate p received).outcome =
              ((g.addressed base (join path c)).evaluate p received).outcome ∧
            ((g.addressed (join base path) c).evaluate p received).client =
              ((g.addressed base (join path c)).evaluate p received).client := by
  refine ⟨⟨_, endsBare_trimEnd base, fun _ h => h.eq⟩,
    ⟨_, startsBare_trimStart path, fun _ h => h.eq⟩, fun _ _ => join_of_bare, ?_, ?_, ?_⟩
  · intro m n
    exact join_slashes m n base path
  · intro c
    exact join_join base path c
  · intro service g hclient c p received
    exact Gate.evaluate_addressed hclient (join_join base path c) p received

/-- A path in the middle of nothing but slashes. -/
theorem Endpoint.join_slashesOnly :
    EndsBare "http://opa:8181" "http://opa:8181//" ∧ StartsBare "" "///" ∧
      join "http://opa:8181//" "///" = "http://opa:8181" ++ "/" ++ "" ∧
      join (join "http://opa:8181//" "///") "/v1" = join "http://opa:8181//" (join "///" "/v1") := by
  have hends : EndsBare "http://opa:8181" "http://opa:8181//" := ⟨⟨2, rfl⟩, by decide⟩
  have hstarts : StartsBare "" "///" := ⟨⟨3, rfl⟩, by decide⟩
  obtain ⟨-, -, hjoin, -, hassoc, -⟩ := join_oneSlash "http://opa:8181//" "///"
  exact ⟨hends, hstarts, hjoin _ _ hends hstarts, hassoc "/v1"⟩

end PolicyGate

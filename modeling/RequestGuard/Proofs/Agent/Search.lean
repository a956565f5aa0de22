import RequestGuard.Agent.Scan

/-!
# The search through a request

A scan goes through the sources one after another and takes the strings of a source when it comes to
it, from the cache if they were taken before. Provided that the cache holds what the request holds
(`Context.Caches`, which every search keeps), this is the same as one search through the list of all
strings of all sources, and such a search ends at the first string that the detector finds
dangerous.
-/

namespace RequestGuard

variable {Args : Type}

namespace Scan

/-- All strings of some sources of a request, in the order of a scan. -/
def inputsOf (limits : Input.Limits) (request : Request) (sources : List Source) :
    List Scan.Input :=
  sources.flatMap fun source =>
    (request.inputOf source limits).map fun (text, path) => { source, text, path }

variable {detector : Detector Args} {args : Args}

theorem search_append (first second : List Scan.Input) :
    search detector args (first ++ second)
      = if (search detector args first).hit.isSome then search detector args first
        else (search detector args first).followedBy (search detector args second) := by
  induction first with
  | nil => simp [search, Search.followedBy]
  | cons input rest ih =>
    rw [List.cons_append, search, search, ih]
    cases detector.judge input.text args with
    | ok answer =>
      cases answer with
      | some detection => rfl
      | none =>
        dsimp only
        split
        · rfl
        · simp [Search.followedBy]
    | error reason =>
      dsimp only
      split
      · rfl
      · simp only [Search.followedBy, List.cons_append, Search.mk.injEq, and_true, true_and]
        omega

def hitOf? (detector : Detector Args) (args : Args) (input : Scan.Input) : Option Hit :=
  match detector.judge input.text args with
  | .ok (some detection) => some { input, detection }
  | _ => none

theorem hitOf?_eq_some_iff {input : Scan.Input} {hit : Hit} :
    hitOf? detector args input = some hit ↔
      hit.input = input ∧ detector.judge hit.input.text args = .ok (some hit.detection) := by
  unfold hitOf?
  constructor
  · intro h
    split at h
    · rename_i detection hjudge
      obtain rfl := Option.some.inj h
      exact ⟨rfl, hjudge⟩
    · cases h
  · rintro ⟨rfl, hjudge⟩
    rw [hjudge]

theorem hit_search (inputs : List Scan.Input) :
    (search detector args inputs).hit = inputs.findSome? (hitOf? detector args) := by
  induction inputs with
  | nil => rfl
  | cons input rest ih =>
    rw [search, List.findSome?_cons, hitOf?]
    cases detector.judge input.text args with
    | error reason => exact ih
    | ok answer =>
      cases answer with
      | none => exact ih
      | some detection => rfl

theorem hit_search_eq_some_iff {inputs : List Scan.Input} {hit : Hit} :
    (search detector args inputs).hit = some hit ↔
      ∃ before after, inputs = before ++ hit.input :: after
        ∧ detector.judge hit.input.text args = .ok (some hit.detection)
        ∧ ∀ input ∈ before, hitOf? detector args input = none := by
  rw [hit_search, List.findSome?_eq_some_iff]
  constructor
  · rintro ⟨before, input, after, rfl, hhit, hbefore⟩
    obtain ⟨rfl, hjudge⟩ := hitOf?_eq_some_iff.1 hhit
    exact ⟨before, after, rfl, hjudge, hbefore⟩
  · rintro ⟨before, after, hsplit, hjudge, hbefore⟩
    exact ⟨before, hit.input, after, hsplit, hitOf?_eq_some_iff.2 ⟨rfl, hjudge⟩, hbefore⟩

/-- A search does not miss a string that the detector finds dangerous. -/
theorem exists_hit_of_judge {inputs : List Scan.Input} {input : Scan.Input}
    (hmem : input ∈ inputs) {detection : Detection}
    (hjudge : detector.judge input.text args = .ok (some detection)) :
    ∃ hit, (search detector args inputs).hit = some hit := by
  have hhit : hitOf? detector args input = some ⟨input, detection⟩ :=
    hitOf?_eq_some_iff.2 ⟨rfl, hjudge⟩
  rw [hit_search, ← Option.isSome_iff_exists, List.findSome?_isSome_iff]
  exact ⟨input, hmem, by rw [hhit]; rfl⟩

end Scan

/-- What was taken from the sources of a request is what they hold. -/
def Context.Caches (context : Context) (limits : Input.Limits) : Prop :=
  ∀ source strings, context.inputs.lookup source = some strings →
    strings = context.request.inputOf source limits

namespace Context

theorem caches_ofRequest (request : Request) (limits : Input.Limits) :
    (ofRequest request).Caches limits := by
  intro source strings h
  cases h

variable {context : Context} {limits : Input.Limits}

theorem Caches.fst_input (h : context.Caches limits) (source : Source) :
    (context.input source limits).1 = context.request.inputOf source limits := by
  unfold input
  cases hlookup : context.inputs.lookup source with
  | none => rfl
  | some strings => exact h source strings hlookup

theorem exists_snd_input (context : Context) (limits : Input.Limits) (source : Source) :
    ∃ inputs, (context.input source limits).2 = { context with inputs } := by
  unfold input
  cases context.inputs.lookup source with
  | none => exact ⟨_, rfl⟩
  | some strings => exact ⟨context.inputs, rfl⟩

theorem Caches.snd_input (h : context.Caches limits) (source : Source) :
    (context.input source limits).2.Caches limits := by
  unfold input
  cases hlookup : context.inputs.lookup source with
  | some strings => exact h
  | none =>
    intro other strings hother
    rw [List.lookup_cons] at hother
    by_cases hsame : other = source
    · subst hsame
      simpa using hother.symm
    · rw [beq_false_of_ne hsame] at hother
      exact h other strings hother

end Context

namespace Scan

theorem exists_snd_searchSources (limits : Input.Limits) (detector : Detector Args) (args : Args)
    (sources : List Source) (context : Context) :
    ∃ inputs, (searchSources limits detector args sources context).2 = { context with inputs } := by
  induction sources generalizing context with
  | nil => exact ⟨context.inputs, rfl⟩
  | cons source rest ih =>
    obtain ⟨inputs, hinputs⟩ := context.exists_snd_input limits source
    rw [searchSources]
    dsimp only
    split
    · exact ⟨inputs, hinputs⟩
    · obtain ⟨later, hlater⟩ := ih (context.input source limits).2
      refine ⟨later, ?_⟩
      rw [hlater, hinputs]

theorem caches_searchSources {limits : Input.Limits} {context : Context} (h : context.Caches limits)
    (detector : Detector Args) (args : Args) (sources : List Source) :
    (searchSources limits detector args sources context).2.Caches limits := by
  induction sources generalizing context with
  | nil => exact h
  | cons source rest ih =>
    rw [searchSources]
    dsimp only
    split
    · exact h.snd_input source
    · exact ih (h.snd_input source)

theorem fst_searchSources {limits : Input.Limits} {context : Context} (h : context.Caches limits)
    (detector : Detector Args) (args : Args) (sources : List Source) :
    (searchSources limits detector args sources context).1
      = search detector args (inputsOf limits context.request sources) := by
  induction sources generalizing context with
  | nil => rfl
  | cons source rest ih =>
    obtain ⟨inputs, hinputs⟩ := context.exists_snd_input limits source
    have hrequest : (context.input source limits).2.request = context.request := by rw [hinputs]
    rw [searchSources, inputsOf, List.flatMap_cons, search_append]
    dsimp only
    rw [h.fst_input]
    split
    · rfl
    · rw [ih (h.snd_input source), hrequest]
      rfl

end Scan

end RequestGuard

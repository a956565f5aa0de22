import RequestGuard.Proofs.Agent.Entries
import RequestGuard.Proofs.Agent.Frame
import RequestGuard.Proofs.Input.FirstEntries
import RequestGuard.Proofs.Stats.Operations
import RequestGuard.Proofs.Text.Utf8Order

/-!
# The first dangerous entry

A scan looks at the entries of a request in a fixed order: by source, and within a source by the
bytes of the strings (`Context.pairwise_entriesOf`). It ends with the first entry that the detector
finds dangerous. Entries before it that the detector could not judge are counted as errors of the
operation, and entries after it are not looked at (`Agent.scan_adjudicates_first_hit`).

The entries of a source are those that were taken from it the first time, with the limits of that
time, so that nothing is asked of the limits with which earlier scans took them.
-/

namespace RequestGuard

variable {Args : Type}

namespace Context

/-- The entries of some sources, in the order of a scan. -/
def entriesOf (context : Context) (limits : Input.Limits) (sources : List Source) :
    List Scan.Input :=
  sources.flatMap fun source => (context.input source limits).1.map
    fun (text, path) => { source, text, path }

/-- What was taken from the sources of a request was taken with some limits. -/
def Extracted (context : Context) : Prop :=
  ∀ source strings, context.inputs.lookup source = some strings →
    ∃ limits, strings = context.request.inputOf source limits

theorem extracted_ofRequest (request : Request) : (ofRequest request).Extracted := by
  intro source strings h
  cases h

theorem Extracted.snd_input {context : Context} (h : context.Extracted) (source : Source)
    (limits : Input.Limits) :
    (context.input source limits).2.Extracted := by
  unfold input
  cases hlookup : context.inputs.lookup source with
  | some strings => exact h
  | none =>
    intro other strings hother
    rw [List.lookup_cons] at hother
    by_cases hsame : other = source
    · subst hsame
      simp only [beq_self_eq_true] at hother
      exact ⟨limits, (Option.some.inj hother).symm⟩
    · rw [beq_false_of_ne hsame] at hother
      exact h other strings hother

theorem fst_input_snd_input (context : Context) (limits : Input.Limits) (source other : Source) :
    ((context.input source limits).2.input other limits).1 = (context.input other limits).1 := by
  unfold input
  cases hlookup : context.inputs.lookup source with
  | some strings => rfl
  | none =>
    dsimp only
    rw [List.lookup_cons]
    by_cases hsame : other = source
    · subst hsame
      rw [beq_self_eq_true, hlookup]
    · rw [beq_false_of_ne hsame]
      cases context.inputs.lookup other <;> rfl

end Context

theorem Request.ordered_inputOf (request : Request) (source : Source) (limits : Input.Limits) :
    Keyed.Ordered (request.inputOf source limits) := by
  unfold inputOf
  split
  · exact Input.ordered_strings limits _
  · exact Keyed.ordered_nil

/-- The order of a scan: by source, and within a source by the bytes of the string. -/
def Scan.Input.Before (a b : Scan.Input) : Prop :=
  Source.all.idxOf a.source < Source.all.idxOf b.source
    ∨ a.source = b.source ∧ Utf8.encode a.text.toList < Utf8.encode b.text.toList

theorem Context.pairwise_entriesOf {context : Context} (h : context.Extracted)
    (limits : Input.Limits) :
    (context.entriesOf limits Source.all).Pairwise Scan.Input.Before := by
  have hordered (source : Source) : Keyed.Ordered (context.input source limits).1 := by
    unfold input
    cases hlookup : context.inputs.lookup source with
    | none => exact context.request.ordered_inputOf source limits
    | some strings =>
      obtain ⟨taken, rfl⟩ := h source strings hlookup
      exact context.request.ordered_inputOf source taken
  rw [entriesOf, List.pairwise_flatMap]
  constructor
  · intro source _
    rw [List.pairwise_map]
    apply (hordered source).imp
    intro a b hbefore
    exact .inr ⟨rfl, Utf8.encode_lt_encode (String.lt_iff.1 (of_decide_eq_true hbefore))⟩
  · have hsources :
        Source.all.Pairwise fun a b => Source.all.idxOf a < Source.all.idxOf b := by decide
    apply hsources.imp
    intro source later hlater a ha b hb
    obtain ⟨_, _, rfl⟩ := List.mem_map.1 ha
    obtain ⟨_, _, rfl⟩ := List.mem_map.1 hb
    exact .inl hlater

/-! ### The search -/

namespace Scan

variable {detector : Detector Args} {args : Args}

/-- A search through the sources is a search through their entries. -/
theorem fst_searchSources_eq (limits : Input.Limits) (detector : Detector Args) (args : Args)
    (sources : List Source) (context : Context) :
    (searchSources limits detector args sources context).1
      = search detector args (context.entriesOf limits sources) := by
  induction sources generalizing context with
  | nil => rfl
  | cons source rest ih =>
    have hrest : (context.input source limits).2.entriesOf limits rest
        = context.entriesOf limits rest := by
      unfold Context.entriesOf
      congr 1
      funext other
      rw [context.fst_input_snd_input]
    rw [searchSources, Context.entriesOf, List.flatMap_cons, search_append]
    dsimp only
    split
    · rfl
    · rw [ih, hrest]
      rfl

def fails (detector : Detector Args) (args : Args) (entry : Scan.Input) : Bool :=
  !(detector.judge entry.text args).isOk

def IsHit (detector : Detector Args) (args : Args) (entry : Scan.Input) : Prop :=
  ∃ detection, detector.judge entry.text args = .ok (some detection)

/-- Entries that are not dangerous are passed by, and those that cannot be judged are counted. -/
theorem search_append_of_not_isHit {before : List Scan.Input}
    (h : ∀ entry ∈ before, ¬ IsHit detector args entry) (after : List Scan.Input) :
    (search detector args (before ++ after)).hit = (search detector args after).hit
      ∧ (search detector args (before ++ after)).failures
          = before.countP (fails detector args) + (search detector args after).failures := by
  induction before with
  | nil => exact ⟨rfl, (Nat.zero_add _).symm⟩
  | cons entry rest ih =>
    obtain ⟨hentry, hrest⟩ := List.forall_mem_cons.1 h
    obtain ⟨hhit, hfailures⟩ := ih hrest
    rw [List.cons_append, search, List.countP_cons, fails]
    cases hjudge : detector.judge entry.text args with
    | error reason =>
      refine ⟨hhit, ?_⟩
      show (search detector args (rest ++ after)).failures + 1 = _
      simp only [Except.isOk, Except.toBool, Bool.not_false, if_true]
      omega
    | ok answer =>
      cases answer with
      | some detection => exact absurd ⟨detection, hjudge⟩ hentry
      | none => exact ⟨hhit, hfailures⟩

theorem search_of_isHit (entry : Scan.Input) {detection : Detection}
    (h : detector.judge entry.text args = .ok (some detection)) (after : List Scan.Input) :
    search detector args (entry :: after)
      = { examined := [entry.text], hit := some { input := entry, detection } } := by
  rw [search, h]

end Scan

/-! ### The scan -/

namespace Agent

/-- What a scan of a request does with the attack that it finds, if any: the attack is reported, or
stored by a scan that defers it unless there is a stored one. Otherwise nothing is reported. -/
structure Adjudicates (agent : Agent) (now : Nat) (context : Context) (defer : Bool)
    (attack? : Option Attack) (outcome : Scan.Outcome) : Prop where
  error : outcome.error = if defer then none else attack?.bind Attack.outcome?
  reported {attack : Attack} (hattack : attack? = some attack) (hnow : defer = false) :
    agent.Reports now outcome.context attack outcome.agent
  unreported (h : attack? = none ∨ defer = true) : agent.SameReports outcome.agent
  context : ∃ inputs, outcome.context = some { context with
    inputs
    deferred :=
      if defer then context.deferred.or
        (attack?.map fun attack => { attack, error := attack.outcome? })
      else context.deferred }

/-- An operation was called once more, and some entries could not be judged for it. -/
structure CountsCall (before after : Agent) (operation : String) (failures : Nat) : Prop where
  calls : after.stats.current.operationCount operation .calls
    = before.stats.current.operationCount operation .calls + 1
  detectorErrors :
    after.stats.current.operationCount operation .detectorErrors
      = before.stats.current.operationCount operation .detectorErrors + failures

theorem countsCall_countFailures (agent : Agent) (operation : String) (kind : AttackKind)
    (failures : Nat) :
    agent.CountsCall ((agent.countCall operation kind true).countFailures operation kind failures)
      operation failures := by
  have hcounted (tally : Stats.OperationTally) :
      ((agent.countCall operation kind true).countFailures
          operation kind failures).stats.current.operationCount operation tally
        = agent.stats.current.operationCount operation tally
          + (Stats.Entry.call operation kind true
            :: List.replicate failures (.detectorError operation kind)).countP
              (tally.counts operation) := by
    rw [stats_countFailures, ← Stats.operationCount_enterAll]
    rfl
  constructor
  · rw [hcounted, List.countP_cons_of_pos (by simp [Stats.OperationTally.counts]),
      List.countP_replicate, if_neg (by simp [Stats.OperationTally.counts])]
  · rw [hcounted, List.countP_cons_of_neg (by simp [Stats.OperationTally.counts]),
      List.countP_replicate, if_pos (by simp [Stats.OperationTally.counts])]

theorem CountsCall.report {before after : Agent} {operation : String} {failures : Nat}
    (h : before.CountsCall after operation failures) (now : Nat) (context : Option Context)
    (attack : Attack) :
    before.CountsCall (after.report now context attack) operation failures := by
  have hreported (tally : Stats.OperationTally)
      (htally : ∀ name kind blocked, tally.counts operation (.attack name kind blocked) = false) :
      (after.report now context attack).stats.current.operationCount operation tally
        = after.stats.current.operationCount operation tally := by
    have hentry := Stats.operationCount_enter after.stats (attackEntry attack) operation tally
    rw [attackEntry, htally, if_neg Bool.false_ne_true, Nat.add_zero] at hentry
    rw [stats_report]
    exact hentry
  constructor
  · rw [hreported .calls fun _ _ _ => rfl, h.calls]
  · rw [hreported .detectorErrors fun _ _ _ => rfl, h.detectorErrors]

theorem adjudicates_searchInput (agent : Agent) (now : Nat) (context : Context) (operation : String)
    (detector : Detector Args) (args : Args) (defer : Bool) :
    let search :=
      Scan.search detector args (context.entriesOf agent.settings.protection.limits Source.all)
    let outcome :=
      (agent.countCall operation detector.kind true).searchInput now context operation
        detector args defer
    agent.Adjudicates now context defer
        (search.hit.map fun hit => hit.toAttack detector.kind operation agent.isBlocking) outcome
      ∧ agent.CountsCall outcome.agent operation search.failures := by
  intro search outcome
  let called := agent.countCall operation detector.kind true
  let counted := called.countFailures operation detector.kind search.failures
  have hsame : agent.SameReports counted :=
    (agent.sameReports_countCall operation detector.kind true).trans
      (called.sameReports_countFailures operation detector.kind search.failures)
  have hcounts : agent.CountsCall counted operation search.failures :=
    agent.countsCall_countFailures operation detector.kind search.failures
  obtain ⟨inputs, hinputs⟩ :=
    Scan.exists_snd_searchSources called.settings.protection.limits detector args Source.all context
  have hsearch :
      (Scan.searchSources called.settings.protection.limits detector args Source.all context).1
        = search :=
    Scan.fst_searchSources_eq _ detector args Source.all context
  cases hhit : search.hit with
  | none =>
    have houtcome : outcome =
        { examined := search.examined, agent := counted,
          context := some { context with inputs } } := by
      simp only [outcome, searchInput, called] at hinputs hsearch ⊢
      rw [hsearch, hinputs, hhit]
    rw [houtcome]
    exact ⟨⟨by cases defer <;> rfl, nofun, fun _ => hsame, inputs, by cases defer <;> simp⟩,
      hcounts⟩
  | some hit =>
    have houtcome : outcome =
        { counted.found now { context with inputs }
            (hit.toAttack detector.kind operation agent.isBlocking) defer with
          examined := search.examined } := by
      simp only [outcome, searchInput, called] at hinputs hsearch ⊢
      rw [hsearch, hinputs, hhit]
      rfl
    rw [houtcome]
    cases defer with
    | false =>
      refine ⟨⟨rfl, ?_, nofun, inputs, rfl⟩, hcounts.report ..⟩
      rintro attack hattack -
      obtain rfl := Option.some.inj hattack
      exact hsame.reports rfl (reports_report ..)
    | true =>
      refine ⟨⟨rfl, nofun, fun _ => hsame, inputs, ?_⟩, hcounts⟩
      dsimp only [found]
      cases context.deferred <;> rfl

/-- A scan that the policy does not turn off and no deferred attack settles finds the attack that
the first dangerous entry is. Of the operation it counts the call and the entries before that one
which the detector could not judge, or all such entries if no entry is dangerous. -/
theorem scan_adjudicates_first_hit {agent : Agent} {context : Context} {detector : Detector Args}
    (henabled : agent.disabled = false)
    (hprotected : agent.policy.isProtectionOff context.request.method context.request.route = false)
    (hdeferred : ∀ deferred, context.deferred = some deferred →
      deferred.attack.kind ≠ detector.kind) (now : Nat) (operation : String) (args : Args)
    (defer : Bool) :
    let entries := context.entriesOf agent.settings.protection.limits Source.all
    let outcome := agent.scan now (some context) operation detector args defer
    (context.Extracted → entries.Pairwise Scan.Input.Before)
      ∧ (∀ before first after detection, entries = before ++ first :: after →
          (∀ entry ∈ before, ¬ Scan.IsHit detector args entry) →
          detector.judge first.text args = .ok (some detection) →
          agent.Adjudicates now context defer
              (some
                { kind := detector.kind, operation, source := first.source
                  path := first.path.render, payload := first.text
                  metadata := detection.metadata, blocked := agent.isBlocking })
              outcome
            ∧ agent.CountsCall outcome.agent operation (before.countP (Scan.fails detector args)))
      ∧ ((∀ entry ∈ entries, ¬ Scan.IsHit detector args entry) →
          agent.Adjudicates now context defer none outcome
            ∧ agent.CountsCall outcome.agent operation
              (entries.countP (Scan.fails detector args))) := by
  intro entries outcome
  obtain ⟨hadjudicates, hcounts⟩ :=
    agent.adjudicates_searchInput now context operation detector args defer
  rw [← scan_eq_searchInput henabled hprotected hdeferred] at hadjudicates hcounts
  refine ⟨fun hextracted => Context.pairwise_entriesOf hextracted _, ?_, ?_⟩
  · intro before first after detection hsplit hbefore hfirst
    obtain ⟨hhit, hfailures⟩ := Scan.search_append_of_not_isHit hbefore (first :: after)
    rw [Scan.search_of_isHit first hfirst, ← hsplit] at hhit hfailures
    rw [hhit] at hadjudicates
    rw [hfailures] at hcounts
    exact ⟨hadjudicates, hcounts⟩
  · intro hnone
    obtain ⟨hhit, hfailures⟩ := Scan.search_append_of_not_isHit hnone []
    rw [List.append_nil] at hhit hfailures
    rw [hhit] at hadjudicates
    rw [hfailures] at hcounts
    exact ⟨hadjudicates, hcounts⟩

/-- The name `b` of the query was cut off when the query was taken, so that the value of a header is
the first hit. It is reported, and the operation fails since attacks are blocked. -/
theorem scan_adjudicates_first_hit_taken_before :
    let request :=
      Request.ofParts { method := "GET", url := "/?a=1%3Bls&b=2", headers := [("X-Name", "b")] }
    let context := ((Context.ofRequest request).input .query { maxEntries := 2 }).2
    let agent := ofSettings { protection := { block := some true } }
    let detector : Detector Unit :=
      { kind := .shellInjection
        judge := fun s _ => if s = "a" then .error ⟨"cannot judge"⟩
          else .ok (if s = "b" then some {} else none) }
    let before : List Scan.Input :=
      [⟨.query, "1;ls", [.member "a"]⟩, ⟨.query, "a", []⟩]
    let first : Scan.Input := ⟨.headers, "b", [.member "x-name"]⟩
    let attack : Attack :=
      { kind := .shellInjection, operation := "exec", source := .headers, path := ".x-name",
        payload := "b", metadata := [], blocked := true }
    let outcome := agent.scan 0 (some context) "exec" detector () false
    agent.disabled = false
      ∧ agent.policy.isProtectionOff context.request.method context.request.route = false
      ∧ (∀ deferred, context.deferred = some deferred → deferred.attack.kind ≠ detector.kind)
      ∧ context.Extracted
      ∧ context.entriesOf agent.settings.protection.limits Source.all
        = before ++ first :: [⟨.headers, "x-name", []⟩]
      ∧ (∀ entry ∈ before, ¬ Scan.IsHit detector () entry)
      ∧ detector.judge first.text () = .ok (some {})
      ∧ agent.Adjudicates 0 context false (some attack) outcome
      ∧ agent.CountsCall outcome.agent "exec" 1
      ∧ outcome.error = some attack.toError
      ∧ outcome.agent.stats.current.requests.attacks = { total := 1, blocked := 1 }
      ∧ outcome.agent.channel.queue = [.ofAttack agent.info attack outcome.context] := by
  intro request context agent detector before first attack outcome
  have hprotected :
      agent.policy.isProtectionOff context.request.method context.request.route = false := by
    decide +kernel
  have hdeferred :
      ∀ deferred, context.deferred = some deferred → deferred.attack.kind ≠ detector.kind := by
    intro deferred h
    have hnone : context.deferred = none := by decide +kernel
    rw [hnone] at h
    cases h
  have hentries : context.entriesOf agent.settings.protection.limits Source.all
      = before ++ first :: [⟨.headers, "x-name", []⟩] := by decide +kernel
  have hbefore : ∀ entry ∈ before, ¬ Scan.IsHit detector () entry := by
    intro entry hentry hhit
    obtain ⟨detection, hjudge⟩ := hhit
    simp only [before, List.mem_cons, List.not_mem_nil, or_false] at hentry
    obtain rfl | rfl := hentry
    · simp [detector] at hjudge
    · simp [detector] at hjudge
  have hfirst : detector.judge first.text () = .ok (some {}) := rfl
  have hextracted : context.Extracted := (Context.extracted_ofRequest request).snd_input .query _
  obtain ⟨-, hhit, -⟩ := scan_adjudicates_first_hit rfl hprotected hdeferred 0 "exec" () false
  obtain ⟨hadjudicates, hcounts⟩ := hhit before first _ {} hentries hbefore hfirst
  have hpath : first.path.render = ".x-name" := by decide
  rw [hpath] at hadjudicates
  exact ⟨rfl, hprotected, hdeferred, hextracted, hentries, hbefore, hfirst, hadjudicates, hcounts,
    hadjudicates.error, by decide +kernel, by decide +kernel⟩

end Agent

end RequestGuard

import RequestGuard.Proofs.Agent.Frame
import RequestGuard.Proofs.Request.Supplied

/-!
# Scans miss nothing

Whatever the sender of a request supplies within the limits of extraction is shown to the detector,
unless the search has ended at an attack before. So a scan that is not settled otherwise finds an
attack if any supplied text is dangerous to its operation (`World.scan_detects`): it reports the
attack, or stores it if it is deferred, and the operation fails exactly if attacks are blocked.
-/

namespace RequestGuard

variable {Args : Type}

/-- The distinct strings that a source of a request yields down to a level. -/
def Request.yieldOf (request : Request) (source : Source) (maxDepth : Nat) : List String :=
  match request.valueOf? source with
  | some value => ((Input.occurrences (maxDepth + 1) [] value).map Prod.fst).dedup
  | none => []

theorem Supplied.exists_mem_inputOf {parts : Request.Parts} {s : String} {source : Source}
    {level : Nat} {limits : Input.Limits} (h : Supplied parts s source level)
    (hlevel : level ≤ limits.maxDepth)
    (hentries : ((Request.ofParts parts).yieldOf source limits.maxDepth).length
      ≤ limits.maxEntries) :
    ∃ path, (s, path) ∈ (Request.ofParts parts).inputOf source limits := by
  obtain ⟨value, hvalue, hstands⟩ := h.exists_standsIn
  obtain ⟨place, hplace⟩ := hstands.exists_mem_occurrences (Nat.lt_succ_of_le hlevel) []
  rw [Request.yieldOf, hvalue] at hentries
  rw [Request.inputOf, hvalue]
  exact Input.exists_mem_collect hentries hplace

/-- An attack that a detector makes of a string of a request, the arguments of an operation being
given. -/
structure Attack.Arises (attack : Attack) (agent : Agent) (request : Request) (operation : String)
    (detector : Detector Args) (args : Args) : Prop where
  kind : attack.kind = detector.kind
  operation : attack.operation = operation
  blocked : attack.blocked = agent.isBlocking
  input :
    ∃ path detection, (attack.payload, path)
      ∈ request.inputOf attack.source agent.settings.protection.limits
    ∧ attack.path = path.render ∧ detector.judge attack.payload args = .ok (some detection)
    ∧ attack.metadata = detection.metadata

theorem Source.mem_all (source : Source) : source ∈ all := by
  cases source <;> decide

namespace Scan

variable {detector : Detector Args} {args : Args} {limits : Input.Limits} {request : Request}

theorem mem_inputsOf {sources : List Source} {input : Scan.Input} :
    input ∈ inputsOf limits request sources ↔
      input.source ∈ sources ∧ (input.text, input.path) ∈ request.inputOf input.source limits := by
  simp only [inputsOf, List.mem_flatMap, List.mem_map]
  constructor
  · rintro ⟨source, hsource, ⟨text, path⟩, hmem, rfl⟩
    exact ⟨hsource, hmem⟩
  · rintro ⟨hsource, hmem⟩
    exact ⟨input.source, hsource, (input.text, input.path), hmem, rfl⟩

theorem arises_of_hit {agent : Agent} {hit : Hit} (operation : String)
    (h : (search detector args (inputsOf agent.settings.protection.limits request Source.all)).hit
      = some hit) :
    (hit.toAttack detector.kind operation agent.isBlocking).Arises agent request operation
      detector args := by
  obtain ⟨before, after, hsplit, hjudge, -⟩ := hit_search_eq_some_iff.1 h
  have hmem : hit.input ∈ inputsOf agent.settings.protection.limits request Source.all := by
    rw [hsplit]
    simp
  exact ⟨rfl, rfl, rfl, hit.input.path, hit.detection, (mem_inputsOf.1 hmem).2, rfl, hjudge, rfl⟩

end Scan

namespace Agent

/-- What becomes of an attack: it is reported, or stored unless there is a stored attack already. -/
structure Settles (agent : Agent) (now : Nat) (context : Context) (attack : Attack) (defer : Bool)
    (outcome : Scan.Outcome) : Prop where
  reported (h : defer = false) :
    outcome.error = (if agent.isBlocking then some attack.toError else none)
      ∧ outcome.agent.stats.current.requests.attacks
        = agent.stats.current.requests.attacks.add agent.isBlocking
      ∧ outcome.agent.channel
          = if (agent.throttle.record now).1
            then agent.channel.send (.ofAttack agent.info attack outcome.context)
            else agent.channel
  stored (h : defer = true) :
    outcome.error = none ∧ outcome.agent.stats.current.requests = agent.stats.current.requests
      ∧ outcome.agent.channel = agent.channel
      ∧ ∃ after, outcome.context = some after ∧ after.deferred = some (context.deferred.getD
          { attack, error := if agent.isBlocking then some attack.toError else none })

theorem settles_found (agent : Agent) (now : Nat) (context : Context) {attack : Attack}
    (hblocked : attack.blocked = agent.isBlocking) (operation : String) (kind : AttackKind)
    (failures : Nat) (inputs : List (Source × Input.Strings)) (examined : List String)
    (defer : Bool) :
    agent.Settles now context attack defer
      { (agent.countFailures operation kind failures).found now
          { context with inputs } attack defer with
        examined } := by
  have houtcome : attack.outcome? = if agent.isBlocking then some attack.toError else none := by
    rw [Attack.outcome?, hblocked]
  have hsame := agent.sameReports_countFailures operation kind failures
  constructor
  · rintro rfl
    refine ⟨houtcome, ?_, channel_report _ _ _ _⟩
    have hstats :=
      stats_report (agent.countFailures operation kind failures) now
        (some { context with inputs }) attack
    show (Agent.report _ _ _ _).stats.current.requests.attacks = _
    rw [hstats, ← hsame.requests, ← hblocked]
    rfl
  · rintro rfl
    rw [← houtcome]
    exact ⟨rfl, hsame.requests, rfl, _, rfl, rfl⟩

theorem searchInput_detects (agent : Agent) {context : Context} {detector : Detector Args}
    {args : Args} (hcaches : context.Caches agent.settings.protection.limits) {input : Scan.Input}
    (hinput : input ∈ Scan.inputsOf agent.settings.protection.limits context.request Source.all)
    {detection : Detection} (hjudge : detector.judge input.text args = .ok (some detection))
    (now : Nat) (operation : String) (defer : Bool) :
    ∃ attack : Attack, attack.Arises agent context.request operation detector args
      ∧ agent.Settles now context attack defer
        (agent.searchInput now context operation detector args defer) := by
  obtain ⟨hit, hhit⟩ := Scan.exists_hit_of_judge hinput hjudge
  have hsearch := Scan.fst_searchSources hcaches detector args Source.all
  obtain ⟨inputs, hinputs⟩ :=
    Scan.exists_snd_searchSources agent.settings.protection.limits detector args Source.all context
  refine ⟨_, Scan.arises_of_hit operation hhit, ?_⟩
  rw [searchInput]
  dsimp only
  rw [hsearch, hinputs, hhit]
  exact agent.settles_found now context rfl operation detector.kind _ inputs _ defer

end Agent

namespace World

variable {ι : Type} [DecidableEq ι]

/-- No text that the sender of a request supplies escapes a detector: if it is dangerous to an
operation, a scan for that operation finds an attack. -/
theorem scan_detects {settings : Settings} {requests : ι → Request.Parts} {world : World ι}
    (hworld : world.Reachable settings requests) (henabled : world.agent.disabled = false) (i : ι)
    (hprotected : ∀ e ∈ world.agent.policy.endpointsFor
      (world.contexts i).request.method (world.contexts i).request.route, e.protectionOff = false)
    {detector : Detector Args}
    (hdeferred : ∀ deferred, (world.contexts i).deferred = some deferred →
      deferred.attack.kind ≠ detector.kind) {s : String} {source : Source} {level : Nat}
    (hsupplied : Supplied (requests i) s source level)
    (hlevel : level ≤ settings.protection.limits.maxDepth)
    (hentries :
      ((world.contexts i).request.yieldOf source settings.protection.limits.maxDepth).length
        ≤ settings.protection.limits.maxEntries)
    {args : Args} {detection : Detection} (hjudge : detector.judge s args = .ok (some detection))
    (now : Nat) (operation : String) (defer : Bool) :
    ∃ attack : Attack, attack.Arises world.agent (world.contexts i).request operation detector args
      ∧ world.agent.Settles now (world.contexts i) attack defer
          (world.agent.scan now (some (world.contexts i)) operation detector args defer) := by
  have hserved := hworld.served
  have hlimits : world.agent.settings.protection.limits
      = settings.protection.limits := by rw [hserved.settings_eq]
  obtain ⟨hrequest, -, hcaches⟩ := hserved.context i
  have hoff :
    world.agent.policy.isProtectionOff (world.contexts i).request.method
      (world.contexts i).request.route
      = false := by
    rw [Policy.Snapshot.isProtectionOff, List.any_eq_false]
    intro e he
    simp [hprotected e he]
  obtain ⟨path, hpath⟩ := hsupplied.exists_mem_inputOf hlevel (hrequest ▸ hentries)
  have hinput : (⟨source, s, path⟩ : Scan.Input) ∈
      Scan.inputsOf world.agent.settings.protection.limits
        (world.contexts i).request Source.all := by
    rw [hlimits, hrequest]
    exact Scan.mem_inputsOf.2 ⟨source.mem_all, hpath⟩
  rw [← hlimits] at hcaches
  obtain ⟨attack, harises, hsettles⟩ :=
    (world.agent.countCall operation detector.kind true).searchInput_detects hcaches hinput hjudge
      now operation defer
  rw [Agent.scan_eq_searchInput henabled hoff hdeferred]
  exact ⟨attack, ⟨harises.kind, harises.operation, harises.blocked, harises.input⟩,
    hsettles.reported, hsettles.stored⟩

/-- The dangerous text is the first of two values of a name of the query. -/
theorem scan_detects_repeated_name :
    let requests : Unit → Request.Parts := fun _ => { method := "GET", url := "/?q=1%3Bls&q=2" }
    let world : World Unit := start {} requests
    let detector : Detector Unit :=
      { kind := .shellInjection, judge := fun s _ => .ok (if s = "1;ls" then some {} else none) }
    world.Reachable {} requests ∧ world.agent.disabled = false
      ∧ (∀ e ∈ world.agent.policy.endpointsFor (world.contexts ()).request.method
          (world.contexts ()).request.route, e.protectionOff = false)
      ∧ (∀ deferred, (world.contexts ()).deferred = some deferred →
        deferred.attack.kind ≠ detector.kind)
      ∧ Supplied (requests ()) "1;ls" .query 2
      ∧ ((world.contexts ()).request.yieldOf .query 20).length ≤ 5000
      ∧ ∃ attack : Attack, attack.Arises world.agent (world.contexts ()).request "exec" detector ()
          ∧ world.agent.Settles 0 (world.contexts ()) attack false
              (world.agent.scan 0 (some (world.contexts ())) "exec" detector () false) := by
  intro requests world detector
  have hworld : world.Reachable {} requests := ⟨[], rfl⟩
  have hprotected : ∀ e ∈ world.agent.policy.endpointsFor (world.contexts ()).request.method
      (world.contexts ()).request.route, e.protectionOff = false := by
    intro e he
    have hnone : world.agent.policy.endpointsFor (world.contexts ()).request.method
        (world.contexts ()).request.route = [] := by decide +kernel
    rw [hnone] at he
    cases he
  have hdeferred :
      ∀ deferred, (world.contexts ()).deferred = some deferred →
        deferred.attack.kind ≠ detector.kind := by
    intro deferred h
    cases h
  have hpairs :
      Request.queryPairs "/?q=1%3Bls&q=2" = [("q", "1;ls"), ("q", "2")] := by decide +kernel
  have hsupplied : Supplied (requests ()) "1;ls" .query 2 := by
    have hlevel : valueLevel (Request.queryPairs "/?q=1%3Bls&q=2") "q" = 2 := by rw [hpairs]; decide
    rw [show 2 = valueLevel (Request.queryPairs "/?q=1%3Bls&q=2") "q" + 0 by rw [hlevel]]
    refine .queryValue ?_ .self
    rw [hpairs]
    exact List.mem_cons_self
  have hentries : ((world.contexts ()).request.yieldOf .query 20).length ≤ 5000 := by decide +kernel
  have hjudge : detector.judge "1;ls" () = .ok (some {}) := rfl
  refine ⟨hworld, rfl, hprotected, hdeferred, hsupplied, hentries, ?_⟩
  exact scan_detects hworld rfl () hprotected hdeferred hsupplied (by decide) hentries
    hjudge 0 "exec" false

end World

end RequestGuard

import Mathlib.Data.List.Forall2
import RequestGuard.Proofs.Settings.Override
import RequestGuard.Settings.Load

/-!
# The rules for settings

A rule names a field and says which problem breaks it. `rules` lists them in the order in which they
are reported, and `Reports` is what a list of violations has to be: one for each rule that is
broken, in the order of the rules, with the field and the problem of the rule, and none for the
others. All this holds for whatever counts as an address and as a log filter.

Settings are loaded exactly if no rule is broken once the environment has been applied; otherwise
loading fails with such a list (`load_reports_broken_rules`).
-/

namespace RequestGuard.Settings

/-- A rule that settings must satisfy: the field that it is about, and what is wrong with it in
settings that break it. -/
structure Rule where
  field : String
  Breaks : Settings → Problem → Prop

namespace Rule

def IsBroken (rule : Rule) (settings : Settings) : Prop := ∃ problem, rule.Breaks settings problem

/-- A text must be an absolute URL of the web. -/
def webAddress (grammar : Grammar) (field : String) (read : Settings → String) : Rule where
  field
  Breaks settings problem :=
    (∃ reason, grammar.scheme (read settings) = .error reason ∧ problem = .invalidUrl reason)
      ∨ ∃ scheme, grammar.scheme (read settings) = .ok scheme ∧ scheme ∉ ["http", "https"]
          ∧ problem = .unsupportedScheme scheme

/-- A text must not be blank if there is one. -/
def notBlank (field : String) (read : Settings → Option String) : Rule where
  field
  Breaks settings problem :=
    ∃ text, read settings = some text ∧ (∀ c ∈ text.toList, Text.isBlank c = true)
      ∧ problem = .blank

/-- A number must not be zero. -/
def positive (field : String) (read : Settings → Nat) : Rule where
  field
  Breaks settings problem := read settings = 0 ∧ problem = .zero

/-- A text must be a log filter. -/
def logFilter (grammar : Grammar) (field : String) (read : Settings → String) : Rule where
  field
  Breaks settings problem :=
    grammar.isFilter (read settings) = false ∧ problem = .invalidFilter (read settings)

end Rule

def rules (grammar : Grammar) : List Rule :=
  [.webAddress grammar "cloud.endpoint" (·.cloud.endpoint),
    .webAddress grammar "cloud.realtime_endpoint" (·.cloud.realtimeEndpoint),
    .notBlank "cloud.token" (·.cloud.token),
    .positive "cloud.poll_interval_secs" (·.cloud.pollIntervalSecs),
    .positive "cloud.initial_heartbeat_secs" (·.cloud.initialHeartbeatSecs),
    .positive "cloud.heartbeat_floor_secs" (·.cloud.heartbeatFloorSecs),
    .positive "cloud.timeout_secs" (·.cloud.timeoutSecs),
    .positive "protection.rate_limit_tick_secs" (·.protection.rateLimitTickSecs),
    .positive "protection.max_extract_depth" (·.protection.maxExtractDepth),
    .positive "protection.max_extract_entries" (·.protection.maxExtractEntries),
    .positive "reporting.attack_window_secs" (·.reporting.attackWindowSecs),
    .logFilter grammar "observability.log_level" (·.observability.logLevel)]

/-- The violations report one problem for each rule that is broken, in the order of the rules. -/
inductive Reports (settings : Settings) : List Rule → List Violation → Prop where
  | nil : Reports settings [] []
  | kept {rule : Rule} {rules : List Rule} {violations : List Violation} :
      ¬ rule.IsBroken settings →
      Reports settings rules violations → Reports settings (rule :: rules) violations
  | broken {rule : Rule} {problem : Problem} {rules : List Rule} {violations : List Violation} :
      rule.Breaks settings problem → Reports settings rules violations →
      Reports settings (rule :: rules) ({ field := rule.field, problem } :: violations)

theorem Reports.eq_nil_iff {settings : Settings} {rules : List Rule} {violations : List Violation}
    (h : Reports settings rules violations) :
    violations = [] ↔ ∀ rule ∈ rules, ¬ rule.IsBroken settings := by
  induction h with
  | nil => simp
  | kept hkept _ ih => rw [ih, List.forall_mem_cons, and_iff_right hkept]
  | broken hbreaks _ _ =>
    rw [List.forall_mem_cons]
    exact iff_of_false (List.cons_ne_nil _ _) fun h => h.1 ⟨_, hbreaks⟩

/-- A check finds out whether settings break a rule, and how. -/
def Finds (settings : Settings) (rule : Rule) (check : String × Option Problem) : Prop :=
  check.1 = rule.field ∧ ∀ problem, check.2 = some problem ↔ rule.Breaks settings problem

theorem finds_webAddress (grammar : Grammar) (settings : Settings) (field : String)
    (read : Settings → String) :
    Finds settings (.webAddress grammar field read) (field,
      urlProblem? grammar (read settings)) := by
  refine ⟨rfl, fun problem => ?_⟩
  simp only [urlProblem?, Rule.webAddress]
  cases grammar.scheme (read settings) with
  | error reason =>
    constructor
    · intro h
      exact .inl ⟨reason, rfl, (Option.some.inj h).symm⟩
    · rintro (⟨_, herror, rfl⟩ | ⟨_, hok, -⟩)
      · rw [Except.error.inj herror]
      · cases hok
  | ok scheme =>
    dsimp only
    rw [Option.ite_none_left_eq_some]
    constructor
    · rintro ⟨hscheme, h⟩
      exact .inr ⟨scheme, rfl, by simpa using hscheme, (Option.some.inj h).symm⟩
    · rintro (⟨_, herror, -⟩ | ⟨_, hok, hscheme, rfl⟩)
      · cases herror
      · rw [Except.ok.inj hok]
        exact ⟨by simpa using hscheme, rfl⟩

theorem isEmpty_trim_iff {text : String} :
    (Text.trim text).isEmpty = true ↔ ∀ c ∈ text.toList, Text.isBlank c = true := by
  rw [← Text.isPadded_nil_iff, Text.trim, String.isEmpty_iff, String.ofList_eq_empty_iff,
    Text.trimChars_eq_iff]
  exact and_iff_right (by decide)

theorem finds_notBlank (settings : Settings) (field : String) (read : Settings → Option String) :
    Finds settings (.notBlank field read) (field, tokenProblem? (read settings)) := by
  refine ⟨rfl, fun problem => ?_⟩
  rw [tokenProblem?, Option.ite_none_right_eq_some, Option.any_eq_true, Option.some.injEq,
    eq_comm (a := Problem.blank)]
  constructor
  · rintro ⟨⟨text, htext, hblank⟩, rfl⟩
    exact ⟨text, htext, isEmpty_trim_iff.1 hblank, rfl⟩
  · rintro ⟨text, htext, hblank, rfl⟩
    exact ⟨⟨text, htext, isEmpty_trim_iff.2 hblank⟩, rfl⟩

theorem finds_positive (settings : Settings) (field : String) (read : Settings → Nat) :
    Finds settings (.positive field read) (field, zeroProblem? (read settings)) := by
  refine ⟨rfl, fun problem => ?_⟩
  rw [zeroProblem?, Option.ite_none_right_eq_some, Option.some.injEq, eq_comm (a := Problem.zero)]
  exact .rfl

theorem finds_logFilter (grammar : Grammar) (settings : Settings) (field : String)
    (read : Settings → String) :
    Finds settings (.logFilter grammar field read) (field,
      filterProblem? grammar (read settings)) := by
  refine ⟨rfl, fun problem => ?_⟩
  rw [filterProblem?, Option.ite_none_left_eq_some, Bool.not_eq_true, Option.some.injEq,
    eq_comm (a := Problem.invalidFilter _)]
  exact .rfl

theorem finds_checks (grammar : Grammar) (settings : Settings) :
    List.Forall₂ (Finds settings) (rules grammar) (settings.checks grammar) :=
  .cons (finds_webAddress ..) <| .cons (finds_webAddress ..) <| .cons (finds_notBlank ..) <|
    .cons (finds_positive ..) <| .cons (finds_positive ..) <| .cons (finds_positive ..) <|
    .cons (finds_positive ..) <| .cons (finds_positive ..) <| .cons (finds_positive ..) <|
    .cons (finds_positive ..) <| .cons (finds_positive ..) <| .cons (finds_logFilter ..) .nil

theorem reports_of_finds {settings : Settings} {rules : List Rule}
    {checks : List (String × Option Problem)} (h : List.Forall₂ (Finds settings) rules checks) :
    Reports settings rules (checks.filterMap
      fun (field, problem?) => problem?.map fun problem => { field, problem }) := by
  induction h with
  | nil => exact .nil
  | @cons rule check rules checks hfinds _ ih =>
    obtain ⟨field, problem?⟩ := check
    obtain ⟨rfl, hproblem⟩ := hfinds
    cases problem? with
    | none =>
      refine .kept ?_ ih
      rintro ⟨problem, hbreaks⟩
      cases (hproblem problem).2 hbreaks
    | some problem => exact .broken ((hproblem problem).1 rfl) ih

theorem reports_violations (grammar : Grammar) (settings : Settings) :
    Reports settings (rules grammar) (settings.violations grammar) :=
  reports_of_finds (finds_checks grammar settings)

theorem load_eq (grammar : Grammar) (settings : Settings) (env? : String → Option String) :
    load grammar settings env?
      = if (settings.override env?).violations grammar = [] then .ok (settings.override env?)
        else .error (.invalid ((settings.override env?).violations grammar)) := by
  rw [load]
  split
  · rename_i hnone
    rw [if_pos hnone]
  · rename_i hsome
    rw [if_neg hsome]

/-- What is loaded are the settings that the environment makes of the others, where seven fields
follow their variables; to apply it once more changes nothing. Loading succeeds exactly if these
break no rule, and otherwise fails with one violation for each broken rule, in the order of the
rules. -/
theorem load_reports_broken_rules (grammar : Grammar) (settings : Settings)
    (env? : String → Option String) :
    let final := settings.override env?
    (∀ other, Overridden settings env? other ↔ other = final)
      ∧ final.override env? = final
      ∧ (load grammar settings env? = .ok final ↔ ∀ rule ∈ rules grammar, ¬ rule.IsBroken final)
      ∧ ((∃ rule ∈ rules grammar, rule.IsBroken final) →
          ∃ violations, load grammar settings env? = .error (.invalid violations)
            ∧ Reports final (rules grammar) violations) := by
  intro final
  have hload : load grammar settings env?
      = if final.violations grammar = [] then .ok final
        else .error (.invalid (final.violations grammar)) := load_eq grammar settings env?
  have hreports := reports_violations grammar final
  refine ⟨fun _ => overridden_iff, override_override settings env?, ?_, ?_⟩
  · rw [hload, ← hreports.eq_nil_iff]
    by_cases hnone : final.violations grammar = [] <;> simp [hnone]
  · rintro ⟨rule, hrule, hbroken⟩
    have hsome : final.violations grammar ≠ [] := fun hnone =>
      hreports.eq_nil_iff.1 hnone rule hrule hbroken
    exact ⟨final.violations grammar, by rw [hload, if_neg hsome], hreports⟩

/-- A blank variable and a word that is no truth value leave what the file says; an address and a
log filter from the environment take the place of good ones. -/
theorem load_reports_broken_rules_several :
    let settings : Settings :=
      { cloud := { token := some "\t", pollIntervalSecs := 0 },
        protection := { block := some true } }
    let env? := fun name =>
      [("SHIELD_TOKEN", " "), ("SHIELD_ENDPOINT", "not a url"), ("SHIELD_BLOCK", "maybe"),
        ("SHIELD_DISABLE", " YES "), ("SHIELD_LOG_LEVEL", "info, [b]=debug")].lookup name
    let violations : List Violation :=
      [⟨"cloud.endpoint", .invalidUrl "relative URL without a base"⟩, ⟨"cloud.token", .blank⟩,
        ⟨"cloud.poll_interval_secs", .zero⟩,
        ⟨"observability.log_level", .invalidFilter "info, [b]=debug"⟩]
    load .standard settings env? = .error (.invalid violations)
      ∧ Reports (settings.override env?) (rules .standard) violations
      ∧ (settings.override env?).protection = { disable := true, block := some true } := by
  intro settings env? violations
  have hload : load .standard settings env? = .error (.invalid violations) := by decide +kernel
  have hzero : (Rule.positive "cloud.poll_interval_secs" (·.cloud.pollIntervalSecs)).IsBroken
      (settings.override env?) :=
    ⟨.zero, by decide +kernel, rfl⟩
  obtain ⟨-, -, -, hfails⟩ := load_reports_broken_rules .standard settings env?
  obtain ⟨reported, hreported, hreports⟩ := hfails ⟨_, by simp [rules], hzero⟩
  have hsame : reported = violations := by
    rw [hload] at hreported
    exact (LoadError.invalid.inj (Except.error.inj hreported)).symm
  exact ⟨hload, hsame ▸ hreports, by decide +kernel⟩

end RequestGuard.Settings

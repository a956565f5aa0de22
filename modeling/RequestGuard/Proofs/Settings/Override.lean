import RequestGuard.Proofs.Text.Trim
import RequestGuard.Settings.Environment

/-!
# What the environment does to settings

`Overridden` says field by field what is in force once the environment has been applied: seven
fields follow a variable of theirs if it is set to something that the field takes, and everything
else is as it was. There is exactly one such outcome, the one that `override` computes
(`overridden_iff`), and to apply the environment to it again changes nothing.
-/

namespace RequestGuard.Settings

open Text (IsPadded IsTrimmed)

/-- The words for a truth value. -/
def flagWords : Bool → List String
  | true => ["1", "true", "yes", "on"]
  | false => ["0", "false", "no", "off"]

/-- A text says a truth value: it is one of its words in any case, with or without blanks around
it. -/
def SaysFlag (text : String) (value : Bool) : Prop :=
  ∃ core, IsTrimmed core ∧ IsPadded core text.toList
    ∧ String.ofList (core.map Char.toLower) ∈ flagWords value

/-- A text says a token: it is not blank, and the token with or without blanks around it. -/
def SaysToken (text token : String) :
    Prop := token ≠ "" ∧ IsTrimmed token.toList ∧ IsPadded token.toList text.toList

theorem toLower_ofList (s : List Char) :
    (String.ofList s).toLower = String.ofList (s.map Char.toLower) := by
  apply String.toList_inj.1
  show (String.map Char.toLower (String.ofList s)).toList = _
  rw [String.toList_map, String.toList_ofList, String.toList_ofList]

theorem flag?_eq_some_iff {text : String} {value : Bool} :
    flag? text = some value ↔ SaysFlag text value := by
  -- One case for each word of the two truth values, and one for all other texts.
  have hword : flag? text = some value ↔ (Text.trim text).toLower ∈ flagWords value := by
    unfold flag?
    split <;> rename_i heq <;> cases value <;> simp_all [flagWords]
  rw [hword, Text.trim, toLower_ofList]
  constructor
  · intro h
    exact ⟨_, Text.isTrimmed_trimChars _, Text.isPadded_trimChars _, h⟩
  · rintro ⟨core, htrimmed, hpadded, h⟩
    rwa [Text.trimChars_of_isPadded htrimmed hpadded]

theorem token?_eq_some_iff {text token : String} :
    token? text = some token ↔ SaysToken text token := by
  have hsame : Text.trim text = token ↔ Text.trimChars text.toList = token.toList := by
    rw [Text.trim, ← String.toList_inj, String.toList_ofList]
  rw [SaysToken, ← Text.trimChars_eq_iff, ← hsame, token?]
  constructor
  · intro h
    split at h
    · cases h
    · rename_i hempty
      obtain rfl := Option.some.inj h
      exact ⟨by simpa using hempty, rfl⟩
  · rintro ⟨hempty, rfl⟩
    simp [hempty]

/-- The value in force: the one that the variable says, if it is set and says one, and otherwise the
old one. -/
inductive InForce {α : Type} (Says : String → α → Prop) (text? : Option String)
    (old : α) : α → Prop where
  | said {text : String} {value : α} : text? = some text → Says text value →
      InForce Says text? old value
  | kept : (∀ text, text? = some text → ∀ value, ¬ Says text value) → InForce Says text? old old

theorem inForce_iff {α : Type} {Says : String → α → Prop} {read? : String → Option α}
    (hread : ∀ text value, read? text = some value ↔ Says text value) (text? : Option String)
    (old value : α) :
    InForce Says text? old value ↔ value = (text?.bind read?).getD old := by
  constructor
  · intro h
    cases h with
    | said hset hsays => rw [hset, Option.bind_some, (hread _ _).2 hsays, Option.getD_some]
    | kept hnothing =>
      have hnone : text?.bind read? = none := by
        rw [Option.bind_eq_none_iff]
        intro text hset
        rw [Option.eq_none_iff_forall_ne_some]
        exact fun value hvalue => hnothing text hset value ((hread _ _).1 hvalue)
      rw [hnone, Option.getD_none]
  · rintro rfl
    cases hvalue : text?.bind read? with
    | some value =>
      obtain ⟨text, hset, hsays⟩ := Option.bind_eq_some_iff.1 hvalue
      exact .said hset ((hread _ _).1 hsays)
    | none =>
      refine .kept fun text hset value hsays => ?_
      rw [hset, Option.bind_some, (hread _ _).2 hsays] at hvalue
      cases hvalue

theorem inForce_some_iff {α : Type} {Says : String → α → Prop} {read? : String → Option α}
    (hread : ∀ text value, read? text = some value ↔ Says text value) (text? : Option String)
    (old value : Option α) :
    InForce (fun text value => ∃ said, Says text said ∧ value = some said) text? old value
      ↔ value = (text?.bind read? <|> old) := by
  have hsome (text : String) (value : Option α) :
      (read? text).map some = some value ↔ ∃ said, Says text said ∧ value = some said := by
    rw [Option.map_eq_some_iff]
    simp only [hread, eq_comm]
  rw [inForce_iff hsome]
  cases text? with
  | none => simp
  | some text => cases hsaid : read? text <;> simp [hsaid]

/-- What is in force of a field that takes every text. -/
theorem inForce_eq_iff (text? : Option String) (old value : String) :
    InForce (fun text value => value = text) text? old value ↔ value = text?.getD old := by
  have hread (text value : String) : some text = some value
      ↔ value = text := by rw [Option.some.injEq, eq_comm]
  rw [inForce_iff hread, Option.bind_fun_some]

/-- The settings that are in force under an environment. -/
structure Overridden (settings : Settings) (env? : String → Option String)
    (final : Settings) : Prop where
  token :
    InForce (fun text value => ∃ token, SaysToken text token ∧ value = some token)
      (env? "SHIELD_TOKEN")
    settings.cloud.token final.cloud.token
  endpoint : InForce (fun text value => value = text) (env? "SHIELD_ENDPOINT")
    settings.cloud.endpoint final.cloud.endpoint
  realtimeEndpoint : InForce (fun text value => value = text) (env? "SHIELD_REALTIME_ENDPOINT")
    settings.cloud.realtimeEndpoint final.cloud.realtimeEndpoint
  disable :
    InForce SaysFlag (env? "SHIELD_DISABLE") settings.protection.disable final.protection.disable
  block :
    InForce (fun text value => ∃ flag, SaysFlag text flag ∧ value = some flag) (env? "SHIELD_BLOCK")
    settings.protection.block final.protection.block
  trustProxy :
    InForce SaysFlag (env? "SHIELD_TRUST_PROXY") settings.protection.trustProxy
      final.protection.trustProxy
  logLevel : InForce (fun text value => value = text) (env? "SHIELD_LOG_LEVEL")
    settings.observability.logLevel final.observability.logLevel
  others : final =
    { settings with
      cloud :=
        { settings.cloud with
          token := final.cloud.token
          endpoint := final.cloud.endpoint
          realtimeEndpoint := final.cloud.realtimeEndpoint }
      protection :=
        { settings.protection with
          disable := final.protection.disable
          block := final.protection.block
          trustProxy := final.protection.trustProxy }
      observability := { settings.observability with logLevel := final.observability.logLevel } }

theorem overridden_iff {settings final : Settings} {env? : String → Option String} :
    Overridden settings env? final ↔ final = settings.override env? := by
  constructor
  · rintro ⟨htoken, hendpoint, hrealtime, hdisable, hblock, htrust, hlevel, hothers⟩
    rw [inForce_some_iff fun _ _ => token?_eq_some_iff] at htoken
    rw [inForce_some_iff fun _ _ => flag?_eq_some_iff] at hblock
    rw [inForce_iff fun _ _ => flag?_eq_some_iff] at hdisable htrust
    rw [inForce_eq_iff] at hendpoint hrealtime hlevel
    rw [hothers, htoken, hendpoint, hrealtime, hdisable, hblock, htrust, hlevel]
    rfl
  · rintro rfl
    constructor
    · exact (inForce_some_iff (fun _ _ => token?_eq_some_iff) _ _ _).2 rfl
    · exact (inForce_eq_iff _ _ _).2 rfl
    · exact (inForce_eq_iff _ _ _).2 rfl
    · exact (inForce_iff (fun _ _ => flag?_eq_some_iff) _ _ _).2 rfl
    · exact (inForce_some_iff (fun _ _ => flag?_eq_some_iff) _ _ _).2 rfl
    · exact (inForce_iff (fun _ _ => flag?_eq_some_iff) _ _ _).2 rfl
    · exact (inForce_eq_iff _ _ _).2 rfl
    · rfl

/-- To apply the environment a second time changes nothing. -/
theorem override_override (settings : Settings) (env? : String → Option String) :
    (settings.override env?).override env? = settings.override env? := by
  have hgetD {α : Type} (said : Option α) (old : α) : said.getD (said.getD old)
      = said.getD old := by
    cases said <;> rfl
  have horElse {α : Type} (said old : Option α) : (said <|> (said <|> old)) = (said <|> old) := by
    cases said <;> rfl
  simp only [override, hgetD, horElse]

end RequestGuard.Settings

import RequestGuard.Settings.Basic
import RequestGuard.Text.Blank

/-!
# Settings from the environment

Variables that are set take the place of settings. A blank token and a flag that is no truth value
do not count.
-/

namespace RequestGuard.Settings

/-- The truth value of a flag, whose case does not matter. -/
def flag? (text : String) : Option Bool :=
  match (Text.trim text).toLower with
  | "1" | "true" | "yes" | "on" => some true
  | "0" | "false" | "no" | "off" => some false
  | _ => none

/-- A token without the blanks around it, unless it is blank. -/
def token? (text : String) : Option String :=
  let token := Text.trim text
  if token.isEmpty then none else some token

def override (settings : Settings) (env? : String → Option String) : Settings where
  cloud :=
    { settings.cloud with
      token := (env? "SHIELD_TOKEN").bind token? <|> settings.cloud.token
      endpoint := (env? "SHIELD_ENDPOINT").getD settings.cloud.endpoint
      realtimeEndpoint :=
        (env? "SHIELD_REALTIME_ENDPOINT").getD settings.cloud.realtimeEndpoint }
  protection :=
    { settings.protection with
      disable := ((env? "SHIELD_DISABLE").bind flag?).getD settings.protection.disable
      block := (env? "SHIELD_BLOCK").bind flag? <|> settings.protection.block
      trustProxy :=
        ((env? "SHIELD_TRUST_PROXY").bind flag?).getD settings.protection.trustProxy }
  reporting := settings.reporting
  observability :=
    { settings.observability with
      logLevel := (env? "SHIELD_LOG_LEVEL").getD settings.observability.logLevel }

end RequestGuard.Settings

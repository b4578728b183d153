import Timetabling.Failure
import Timetabling.Validation.Fault

/-!
# Configuration faults

Why there is no configuration, and why a configuration makes no solver settings.
-/

namespace Timetabling

inductive ConfigurationFault where
  /-- A direction for the look-up of variables is of the wrong kind. -/
  | unusableDirection
  /-- The prefix of the variables' names is no text. -/
  | unusablePrefix
  /-- The prefix is for no names, and has no case to be changed. -/
  | caselessPrefix
  /-- The sources that are given in place of the usual ones are no pair, but so many items. -/
  | unpairedSources (count : Nat)
  /-- The environment variable that lists the origins is not a JSON text. -/
  | unreadableOrigins
  /-- The origins are listed in a text with too many lists and records inside one another. -/
  | nestedTooDeeply
  | invalid (faults : List Fault)
deriving DecidableEq, Repr

def ConfigurationFault.unusablePrefixMessage : String :=
  "error getting value for field \"project_name\" from source \"EnvSettingsSource\""

/-- How sources are reported that are no pair, by the count of their items. -/
def ConfigurationFault.unpairedMessage (count : Nat) : String :=
  if count < 2 then s!"not enough values to unpack (expected 2, got {count})"
  else "too many values to unpack (expected 2)"

def ConfigurationFault.unreadableOriginsMessage : String :=
  "error parsing value for field \"cors_origins\" from source \"EnvSettingsSource\""

inductive SettingsFault where
  | unconfigured (fault : ConfigurationFault)
  | unsuitable (failure : Failure)
deriving Repr

end Timetabling

/-!
# Environments

An environment gives texts to the names of variables. Not every row of names and texts is one.
-/

namespace Timetabling

inductive VariableFault where
  | nullCharacter
  | equalsSign
  | nameless
deriving DecidableEq, Repr

/-- How a name and a text that make no variable are reported, if it is said at all. -/
def VariableFault.message? : VariableFault → Option String
  | nullCharacter => some "embedded null byte"
  | equalsSign => some "illegal environment variable name"
  | nameless => none

namespace Environment

def variableFault? (name text : String) : Option VariableFault :=
  if name.toList.contains '\x00' || text.toList.contains '\x00' then some .nullCharacter
  else if name.toList.contains '=' then some .equalsSign
  else if name.isEmpty then some .nameless
  else none

/-- Why names and texts make no environment: the first fault counts. -/
def fault? (entries : List (String × String)) : Option VariableFault :=
  entries.findSome? fun (name, text) => variableFault? name text

end Environment

end Timetabling

import Timetabling.Configuration.Fault
import Timetabling.Json.Display
import Timetabling.Json.Reader
import Timetabling.Text.Lowercase

/-!
# Looking up variables

How the variables of an environment are found: whether the case of their names matters, what their
names start with, and which of their texts mean that there is no value. The entries of a
configuration can come with directions for this.
-/

namespace Timetabling

structure Lookup where
  caseSensitive : Bool := false
  /-- What the name of a variable has before the name of its entry. -/
  namePrefix : String := ""
  /-- Whether an empty variable gives no value. -/
  skipsEmpty : Bool := false
  /-- What stands between the name of an entry and that of a part of it; nothing if empty. -/
  delimiter : String := ""
  /-- Whether the names of parts can be divided by the delimiter, as often as is asked for. -/
  canDivide : Bool := true
  /-- The text that stands for null. -/
  nullText : Option String := none
deriving DecidableEq, Repr

namespace Lookup

/-! ### Directions -/

/-- The names of the directions. Most of those for other sources than the environment change nothing
here. -/
def directions : List String :=
  ["_case_sensitive", "_env_prefix", "_env_ignore_empty", "_env_nested_delimiter",
    "_env_parse_none_str", "_env_prefix_target", "_env_file", "_env_file_encoding",
    "_env_nested_max_split", "_env_parse_enums", "_nested_model_default_partial_update",
    "_secrets_dir", "_build_sources", "_cli_prog_name", "_cli_parse_args", "_cli_settings_source",
    "_cli_parse_none_str", "_cli_hide_none_type", "_cli_avoid_json", "_cli_enforce_required",
    "_cli_use_class_docs_for_groups", "_cli_exit_on_error", "_cli_prefix", "_cli_flag_prefix_char",
    "_cli_implicit_flags", "_cli_ignore_unknown_args", "_cli_kebab_case", "_cli_shortcuts",
    "_cli_show_env_vars", "_env_file_depth"]

/-- Whether a direction is switched on: zeros, null and what is empty switch it off. -/
def isOn : Value → Bool
  | .null => false
  | .bool b => b
  | .int i => i != 0
  | .float x => !(x.le (.zero false) && Binary64.le (.zero false) x)
  | .text s => !s.isEmpty
  | .list items => !items.isEmpty
  | .record entries => !entries.isEmpty

def switch (name : String) (given : List (String × Value)) : Bool :=
  ((Entries.get? name given).map isOn).getD false

def textual? (name : String) (given : List (String × Value)) : Option String :=
  match Entries.get? name given with
  | some (.text s) => some s
  | _ => none

def isPrefixUsed (given : List (String × Value)) : Bool :=
  match Entries.get? "_env_prefix_target" given with
  | none => true
  | some .null => true
  | some (.text s) => s == "variable" || s == "all"
  | some _ => false

/-- The prefix, which is empty unless given for the names of variables. -/
def readPrefix (given : List (String × Value)) : Except ConfigurationFault String :=
  match Entries.get? "_env_prefix" given with
  | none => .ok ""
  | some .null => .ok ""
  | some (.text s) => .ok (if isPrefixUsed given then s else "")
  | some _ => if isPrefixUsed given then .error .unusablePrefix else .ok ""

/-- Whether there is a prefix without a case that is for no names. Where case does not matter its
lower case is asked for all the same, once the variables have been read. -/
def isPrefixCaseless (given : List (String × Value)) : Bool :=
  !isPrefixUsed given && !switch "_case_sensitive" given &&
    (Entries.get? "_env_prefix" given).any fun v => v matches .list _ || v matches .record _

def readDelimiter (given : List (String × Value)) : String :=
  match Entries.get? "_env_nested_delimiter" given with
  | none => ""
  | some v => if isOn v then CodePoint.toText v.toDocument.display else ""

/-- Whether the names of parts can be divided: by a text, and not a fractional number of times. -/
def canDivideNames (given : List (String × Value)) : Bool :=
  ((Entries.get? "_env_nested_delimiter" given).all fun v => v matches .text _) &&
    (Entries.get? "_env_nested_max_split" given).all fun v => !(v matches .float _) || !isOn v

def namesFiles : Value → Bool
  | .null => true
  | .text _ => true
  | .list items => items.all fun v => (v matches .text _)
  | .record _ => true
  | _ => false

def isMeasured : Value → Bool
  | .null => true
  | .text _ => true
  | .list _ => true
  | .record _ => true
  | _ => false

def isNumeric : Value → Bool
  | .bool _ => true
  | .int _ => true
  | .float _ => true
  | _ => false

def isCount (v : Value) : Bool :=
  isNumeric v || !isOn v

def isDepth (v : Value) : Bool :=
  isNumeric v || v matches .null

def kinds : List (String × (Value → Bool)) :=
  [("_env_prefix", isMeasured), ("_env_nested_max_split", isCount), ("_env_file", namesFiles),
    ("_env_file_depth", isDepth), ("_secrets_dir", namesFiles)]

def areProper (given : List (String × Value)) : Bool :=
  kinds.all fun (name, isKind) => ((Entries.get? name given).map isKind).getD true

def ofEntries (given : List (String × Value)) : Except ConfigurationFault Lookup := do
  if !areProper given then throw .unusableDirection
  return {
    caseSensitive := switch "_case_sensitive" given
    namePrefix := ← readPrefix given
    skipsEmpty := switch "_env_ignore_empty" given
    delimiter := readDelimiter given
    canDivide := canDivideNames given
    nullText := textual? "_env_parse_none_str" given }

/-! ### Sources -/

def items? : Value → Option (List Value)
  | .text s => some (s.toList.map fun c => .text (String.singleton c))
  | .list items => some items
  | .record entries => some (entries.map fun (key, _) => .text key)
  | _ => none

/-- Whether no source is to be used, neither the environment nor the entries that are given. Sources
can be given in place of the usual ones, with entries for them, but no value is a source. -/
def isSourceless (given : List (String × Value)) : Except ConfigurationFault Bool :=
  match Entries.get? "_build_sources" given with
  | none => .ok false
  | some .null => .ok false
  | some v =>
    match items? v with
    | none => .error .unusableDirection
    | some [sources, _] => if isOn sources then .error .unusableDirection else .ok true
    | some items => .error (.unpairedSources items.length)

/-! ### Variables -/

def compared (lookup : Lookup) (name : String) : String :=
  if lookup.caseSensitive then name else Text.Lowercase.ofText name

def variableName (lookup : Lookup) (entry : String) : String :=
  lookup.compared (lookup.namePrefix ++ entry)

/-- The text of the variable for an entry. Of several the last one counts. -/
def text? (lookup : Lookup) (environment : List (String × String)) (entry : String) :
    Option String :=
  let candidates := environment.filter fun (name, text) =>
    lookup.compared name == lookup.variableName entry && !(lookup.skipsEmpty && text.isEmpty)
  candidates.getLast?.map Prod.snd

def value? (lookup : Lookup) (environment : List (String × String)) (entry : String) :
    Option Value :=
  (lookup.text? environment entry).map fun text =>
    if lookup.nullText = some text then .null else .text text

def hasParts (lookup : Lookup) (environment : List (String × String)) (entry : String) : Bool :=
  let start := (lookup.variableName entry ++ lookup.delimiter).toList
  !lookup.delimiter.isEmpty && environment.any fun (name, text) =>
    start.isPrefixOf (lookup.compared name).toList && !(lookup.skipsEmpty && text.isEmpty)

/-- The record of the variables for parts of an entry, without its entries, if there are such
variables. -/
def parts? (lookup : Lookup) (environment : List (String × String)) (entry : String) :
    Except ConfigurationFault (Option Document) :=
  if !lookup.hasParts environment entry then .ok none
  else if lookup.canDivide then .ok (some (.record []))
  else .error .unusableDirection

/-- The document of the variable for an entry that is no single text. It has to be a JSON text;
null gives no value. Variables for its parts belong to a record, and make one if there is no such
variable. -/
def document? (lookup : Lookup) (environment : List (String × String)) (entry : String) :
    Except ConfigurationFault (Option Document) :=
  match lookup.value? environment entry with
  | some (.text text) =>
    match Json.read (CodePoint.ofText text) with
    | .ok .null => .ok none
    | .ok (.record entries) => do
      let _ ← lookup.parts? environment entry
      return some (.record entries)
    | .ok d => .ok (some d)
    | .error (.beyond .depth) => .error .nestedTooDeeply
    | .error _ => .error .unreadableOrigins
  | some _ => .ok (some .null)
  | none => lookup.parts? environment entry

end Lookup

end Timetabling

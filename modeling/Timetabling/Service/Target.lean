import Timetabling.HostName.Basic

/-!
# Request targets

Where a request goes. A target is a reference, resolved against the root of the service: its path
matters, from which dot segments are removed before escapes are decoded, and its scheme and its host
have to be ones that can be sent to. One line feed after a path makes no difference; slashes at its
end are taken off, but then the request is sent a second time, for which the rest of the target has
to be right too.
-/

namespace Timetabling

/-- A reference as it is written, without what stands between its path and its fragment. -/
structure Reference where
  scheme : List Char
  user : List Char
  host : List Char
  port : Option Int
  path : List Char
  fragment : List Char
deriving DecidableEq, Repr

namespace Reference

/-! ### Parts of a reference -/

def isSchemeChar (c : Char) : Bool :=
  c.isAlphanum || c == '+' || c == '.' || c == '-'

def scheme? (cs : List Char) : List Char × List Char :=
  let name := if (cs.takeWhile Char.isAlpha).isEmpty then [] else cs.takeWhile isSchemeChar
  match cs.drop name.length with
  | ':' :: rest => (name, rest)
  | _ => ([], cs)

def authority? : List Char → List Char × List Char
  | '/' :: '/' :: rest =>
    let inside (c : Char) : Bool := c != '/' && c != '?' && c != '#'
    (rest.takeWhile inside, rest.dropWhile inside)
  | cs => ([], cs)

/-- Splits at the last occurrence of a character, which belongs to neither part; without one the
first part is empty. -/
def splitAtLast (c : Char) (cs : List Char) : List Char × List Char :=
  let after := (cs.reverse.takeWhile (· != c)).reverse
  (cs.take (cs.length - after.length - 1), after)

/-- The host at the start of the rest of an authority, and the text after it. A bracket opens a host
that reaches to the last closing one. -/
def hostOf (cs : List Char) : List Char × List Char :=
  if cs.head? == some '[' && cs.contains ']' then
    let after := (splitAtLast ']' cs).2
    (cs.take (cs.length - after.length), after)
  else (cs.takeWhile (· != ':'), cs.dropWhile (· != ':'))

/-! ### Ports -/

def impliedPort (scheme : List Char) : Option Int :=
  [("ftp", 21), ("http", 80), ("https", 443), ("ws", 80), ("wss", 443)].findSome?
    fun (name, port) => if name.toList = scheme then some port else none

def portNumber? (cs : List Char) : Option Int := do
  let (negative, digits) := Text.unsigned (Text.trimmed cs)
  let plain ← Text.withoutUnderscores? digits
  if plain.length ≤ Text.longestNumeral then
    let n : Int ← Text.digitsFrom? 0 plain
    return if negative then -n else n
  else none

/-- The port after a host; none if the scheme implies it, and nothing if it is no number. -/
def port? (scheme : List Char) (cs : List Char) : Option (Option Int) :=
  let digits := if cs.head? = some ':' then cs.drop 1 else cs
  if digits.isEmpty then some none
  else (portNumber? digits).map fun n => if impliedPort scheme = some n then none else some n

/-! ### Reading -/

def hasAuthority (r : Reference) : Bool :=
  !r.user.isEmpty || !r.host.isEmpty || r.port.isSome

def isAbsolute (r : Reference) : Bool :=
  !r.scheme.isEmpty && !r.host.isEmpty

/-- Whether the start of the path could be mistaken for something else. -/
def isAmbiguous (r : Reference) : Bool :=
  r.scheme.isEmpty && !r.hasAuthority &&
    (r.path.head? == some ':' || r.path.take 2 == ['/', '/'])

def longest : Nat := 65536

def isControl (c : Char) : Bool :=
  c.toNat < 0x20 || c.toNat == 0x7F

def ofText? (text : String) : Option Reference := do
  let cs := text.toList
  let (scheme, afterScheme) := scheme? cs
  let (authority, afterAuthority) := authority? afterScheme
  let (user, place) := splitAtLast '@' authority
  let (host, afterHost) := hostOf place
  let port ← port? scheme afterHost
  let path := afterAuthority.takeWhile fun c => c != '?' && c != '#'
  let fragment := (afterAuthority.dropWhile (· != '#')).drop 1
  let reference : Reference := ⟨scheme.map Char.toLower, user, host, port, path, fragment⟩
  if longest < cs.length || cs.any isControl || !HostName.isValid host || reference.isAmbiguous
  then none else some reference

end Reference

structure Target where
  scheme : String
  /-- The host that the target names; none if it is taken from the root. -/
  host : Option (List Char)
  /-- The path as it arrives. -/
  path : List Char
  /-- The fragment as it is read back; a reference that is not absolute has lost its own. -/
  fragment : List Char
deriving DecidableEq, Repr

namespace Target

/-! ### Dot segments -/

/-- The segments kept so far in reverse, after one more segment: a dot is dropped, and two dots drop
the segment before them as well, but never the root. -/
def keepSegment (kept : List (List Char)) (segment : List Char) : List (List Char) :=
  if segment = ['.'] then kept
  else if segment = ['.', '.'] then
    match kept with
    | [] => []
    | [[]] => [[]]
    | _ :: before => before
  else segment :: kept

def withoutDots (path : List Char) : List Char :=
  Text.joined '/' ((Text.pieces '/' path).foldl keepSegment []).reverse

/-! ### Escapes -/

def escaped? (a b : Char) : Option Char := do
  let n := 16 * (← Text.hexValue? a) + (← Text.hexValue? b)
  if n < 128 then some (Char.ofNat n) else none

/-- Decodes the escapes of ASCII characters. Escapes of other bytes are left as they are: no path of
an operation has such characters. -/
def decoded : List Char → List Char
  | '%' :: a :: b :: rest =>
    match escaped? a b with
    | some c => c :: decoded rest
    | none => '%' :: decoded (a :: b :: rest)
  | c :: rest => c :: decoded rest
  | [] => []

/-! ### Resolution -/

/-- The path of a reference. A reference that is not absolute is taken from the root. -/
def resolved (r : Reference) : List Char :=
  let clean := if r.scheme.isEmpty && !r.hasAuthority then r.path else withoutDots r.path
  if r.isAbsolute then clean else withoutDots ('/' :: clean.dropWhile (· == '/'))

/-- The target of a reference: its path is decoded once on the way and once on arrival. -/
def ofReference (r : Reference) : Target where
  scheme := if r.isAbsolute then String.ofList r.scheme else "http"
  host := if r.isAbsolute then some r.host else none
  path := decoded (decoded (resolved r))
  fragment := if r.isAbsolute then decoded r.fragment else []

def ofText? (text : String) : Option Target :=
  (Reference.ofText? text).map ofReference

def hostFault? (target : Target) : Option HostName.Fault :=
  target.host.bind HostName.fault?

def bracketFault? (target : Target) : Option HostName.BracketFault :=
  target.host.bind HostName.bracketFault?

/-! ### Destinations -/

def place (target : Target) : List Char :=
  (target.path.reverse.dropWhile (· == '/')).reverse

def leadsTo (target : Target) (path : String) : Bool :=
  target.place == path.toList || target.place == path.toList ++ ['\n']

def endsInSlash (target : Target) : Bool :=
  target.path.getLast? == some '/'

def isNameable (target : Target) : Bool :=
  target.host.all HostName.isNameable

def isAttachable (target : Target) : Bool :=
  !target.fragment.any Reference.isControl

end Target

end Timetabling

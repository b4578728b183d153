import Timetabling.Json.Value
import Timetabling.Text.CodePoint

/-!
# Documents

What a JSON text says, word for word: its texts and keys are rows of code points, because an escape
can stand for a lone surrogate. A document becomes a value when its texts become proper ones.
-/

namespace Timetabling

inductive Document where
  | null
  | bool (b : Bool)
  | int (i : Int)
  | float (x : Binary64)
  | text (points : List CodePoint)
  | list (items : List Document)
  | record (entries : List (List CodePoint × Document))
deriving Repr, Inhabited

namespace Document

mutual

/-- The value of a document, with the replacement character for lone surrogates. -/
def toValue : Document → Value
  | null => .null
  | bool b => .bool b
  | int i => .int i
  | float x => .float x
  | text points => .text (CodePoint.toText points)
  | list items => .list (toValues items)
  | record entries => .record (Entries.collect (toEntries entries))

def toValues : List Document → List Value
  | [] => []
  | d :: ds => d.toValue :: toValues ds

def toEntries : List (List CodePoint × Document) → List (String × Value)
  | [] => []
  | (key, d) :: rest => (CodePoint.toText key, d.toValue) :: toEntries rest

end

end Document

namespace Value

mutual

def toDocument : Value → Document
  | null => .null
  | bool b => .bool b
  | int i => .int i
  | float x => .float x
  | text s => .text (CodePoint.ofText s)
  | list items => .list (toDocuments items)
  | record entries => .record (toNamedDocuments entries)

def toDocuments : List Value → List Document
  | [] => []
  | v :: vs => v.toDocument :: toDocuments vs

def toNamedDocuments : List (String × Value) → List (List CodePoint × Document)
  | [] => []
  | (key, v) :: rest => (CodePoint.ofText key, v.toDocument) :: toNamedDocuments rest

end

end Value

end Timetabling

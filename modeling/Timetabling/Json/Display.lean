import Timetabling.Json.Document
import Timetabling.Number.Written
import Timetabling.Text.Pieces
import Timetabling.Text.Quoted

/-!
# Documents as text

How a document is shown where a text is needed. A text stands for itself, but is quoted inside a
list or a record.
-/

namespace Timetabling.Document

mutual

/-- A document inside a list or a record. -/
def shown : Document → String
  | null => "None"
  | bool b => if b then "True" else "False"
  | int i => toString i
  | float x => x.written
  | text points => Text.quoted points
  | list items => "[" ++ Text.listed ", " (shownItems items) ++ "]"
  | record entries => "\x7b" ++ Text.listed ", " (shownEntries entries) ++ "\x7d"

def shownItems : List Document → List String
  | [] => []
  | d :: ds => d.shown :: shownItems ds

def shownEntries : List (List CodePoint × Document) → List String
  | [] => []
  | (key, d) :: rest => (Text.quoted key ++ ": " ++ d.shown) :: shownEntries rest

end

def display : Document → List CodePoint
  | text points => points
  | d => CodePoint.ofText d.shown

end Timetabling.Document

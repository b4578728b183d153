import Mathlib.Data.List.TakeWhile
import Timetabling.Json.Reader
import Timetabling.Text.Pieces

/-!
# JSON texts of lists of texts

A list of texts is written as a JSON text by quoting each text, which escapes quotes, backslashes
and control characters, and it is read back as this list. A JSON text that starts neither a text nor
a list nor a record is a word or a number, and has no other characters than these.
-/

namespace Timetabling.Json

/-! ### Writing -/

def escaped (c : Char) : List Char :=
  if c = '"' then ['\\', '"']
  else if c = '\\' then ['\\', '\\']
  else if c.toNat < 32 then
    ['\\', 'u', '0', '0', Nat.digitChar (c.toNat / 16), Nat.digitChar (c.toNat % 16)]
  else [c]

def quoted (s : String) : List Char :=
  '"' :: s.toList.flatMap escaped ++ ['"']

def listText (texts : List String) : String :=
  String.ofList ('[' :: Text.joined ',' (texts.map quoted) ++ [']'])

/-! ### Reading what has been written -/

/-- The part of a quoted text that a character is read as. -/
def partOf (c : Char) : StringPart :=
  if c.toNat < 32 then .unit c.toNat else .point (.char c)

theorem hexValue?_digitChar {n : Nat} (small : n < 16) :
    Text.hexValue? (Nat.digitChar n) = some n := by
  revert n
  decide

theorem unit?_control {n : Nat} (control : n < 32) :
    unit? '0' '0' (Nat.digitChar (n / 16)) (Nat.digitChar (n % 16)) = some n := by
  have zero : Text.hexValue? '0' = some 0 := by decide
  have high := hexValue?_digitChar (show n / 16 < 16 by omega)
  have low := hexValue?_digitChar (show n % 16 < 16 by omega)
  simp only [unit?, zero, high, low, Option.pure_def, Option.bind_eq_bind, Option.bind_some,
    Option.some.injEq]
  omega

theorem string_escaped (c : Char) (acc : List StringPart) (rest : List CodePoint) :
    string acc ((escaped c).map .char ++ rest) = string (partOf c :: acc) rest := by
  unfold escaped partOf
  split
  next quote => subst quote; simp [string, escape?]
  split
  next => subst_vars; simp [string, escape?]
  split
  next control =>
    simp only [List.map_cons, List.map_nil, List.cons_append, List.nil_append]
    rw [string]
    simp only [unit?_control control]
  next notQuote notSlash printable =>
    simp only [List.map_cons, List.map_nil, List.cons_append, List.nil_append]
    rw [string, if_neg printable]
    · exact notQuote
    · exact fun _ _ _ _ _ _ slash => notSlash slash
    · exact fun _ _ _ slash => notSlash slash
    · exact notSlash

theorem points_unit_cons {n : Nat} (control : n < 32) (rest : List StringPart) :
    points (.unit n :: rest) = .char (Char.ofNat n) :: points rest := by
  have high : CodePoint.isHighSurrogate n = false := by
    simp only [CodePoint.isHighSurrogate, Bool.and_eq_false_iff, decide_eq_false_iff_not]
    omega
  have low : CodePoint.isLowSurrogate n = false := by
    simp only [CodePoint.isLowSurrogate, Bool.and_eq_false_iff, decide_eq_false_iff_not]
    omega
  rcases rest with _ | ⟨_ | later, rest⟩ <;> simp [points, CodePoint.ofNumber, high, low]

theorem points_map_partOf (cs : List Char) : points (cs.map partOf) = cs.map .char := by
  induction cs with
  | nil => rfl
  | cons c rest ih =>
    rw [List.map_cons, partOf]
    split
    next control => rw [points_unit_cons control, ih, Char.ofNat_toNat, List.map_cons]
    next => rw [points, ih, List.map_cons]

theorem string_quoted (cs : List Char) (acc : List StringPart) (rest : List CodePoint) :
    string acc ((cs.flatMap escaped).map .char ++ .char '"' :: rest) =
      .ok (points (acc.reverse ++ cs.map partOf), rest) := by
  induction cs generalizing acc with
  | nil => simp [string]
  | cons c later ih =>
    rw [List.flatMap_cons, List.map_append, List.append_assoc, string_escaped, ih]
    simp

variable {depth bound : Nat}

theorem document_quoted (s : String) (rest : List CodePoint) :
    document (bound + 1) depth ((quoted s).map .char ++ rest) =
      .ok (.text (CodePoint.ofText s), rest) := by
  have opened : (quoted s).map .char ++ rest =
      .char '"' :: ((s.toList.flatMap escaped).map .char ++ .char '"' :: rest) := by
    simp [quoted]
  rw [opened, document.eq_def]
  simp only [string_quoted, List.reverse_nil, List.nil_append, points_map_partOf]
  rfl

theorem skipSpaces_of_head {p : CodePoint} {rest : List CodePoint} (kept : isSpace p = false) :
    skipSpaces (p :: rest) = p :: rest := by
  simp [skipSpaces, kept]

theorem exists_joined_quoted (first : String) (later : List String) :
    ∃ tail, Text.joined ',' ((first :: later).map quoted) = '"' :: tail := by
  cases later <;> exact ⟨_, rfl⟩

theorem skipSpaces_joined (first : String) (later : List String) (rest : List CodePoint) :
    skipSpaces ((Text.joined ',' ((first :: later).map quoted)).map .char ++ rest) =
      (Text.joined ',' ((first :: later).map quoted)).map .char ++ rest := by
  obtain ⟨tail, starts⟩ := exists_joined_quoted first later
  rw [starts]
  exact skipSpaces_of_head (by decide)

/-- The items of a written list are read one after the other. -/
theorem items_quoted (first : String) (later : List String) (acc : List Document)
    (rest : List CodePoint) :
    items (bound + later.length + 2) depth acc
        ((Text.joined ',' ((first :: later).map quoted)).map .char ++ .char ']' :: rest) =
      .ok (acc.reverse ++ (first :: later).map fun s => .text (CodePoint.ofText s), rest) := by
  induction later generalizing first acc with
  | nil =>
    simp only [List.map_cons, List.map_nil, Text.joined, List.length_nil]
    rw [items, document_quoted]
    simp [skipSpaces_of_head, isSpace]
  | cons second later ih =>
    have opened : (Text.joined ',' ((first :: second :: later).map quoted)).map .char ++
          .char ']' :: rest =
        (quoted first).map .char ++ .char ',' ::
          ((Text.joined ',' ((second :: later).map quoted)).map .char ++ .char ']' :: rest) := by
      simp [Text.joined]
    have comma : isSpace (.char ',') = false := by decide
    rw [opened, List.length_cons, ← Nat.add_assoc, items, document_quoted]
    simp only [skipSpaces_of_head comma, skipSpaces_joined, ih]
    simp

theorem length_le_length_joined (texts : List String) :
    texts.length ≤ (Text.joined ',' (texts.map quoted)).length := by
  induction texts with
  | nil => simp
  | cons first later ih =>
    cases later with
    | nil => simp [Text.joined, quoted]
    | cons second later =>
      simp only [List.map_cons, Text.joined, List.length_append, List.length_cons] at ih ⊢
      omega

theorem document_bracket {rest : List CodePoint}
    (nonempty : (skipSpaces rest).head? ≠ some (.char ']')) :
    document (bound + 1) (depth + 1) (.char '[' :: rest) =
      (items bound depth [] (skipSpaces rest)).map fun (ds, rest') => (.list ds, rest') := by
  rw [document]
  split
  next closed => simp [closed] at nonempty
  next => rfl

theorem read_listText (texts : List String) :
    read (CodePoint.ofText (listText texts)) =
      .ok (.list (texts.map fun s => .text (CodePoint.ofText s))) := by
  have bracket : isSpace (.char '[') = false := by decide
  have written : CodePoint.ofText (listText texts) =
      .char '[' :: ((Text.joined ',' (texts.map quoted)).map .char ++ [.char ']']) := by
    simp [CodePoint.ofText, listText]
  rw [read, written, skipSpaces_of_head bracket]
  cases texts with
  | nil => rfl
  | cons first later =>
    -- There are at least as many characters as items, so that the bound is not reached.
    obtain ⟨bound, enough⟩ : ∃ bound, 2 * (CodePoint.char '[' ::
          ((Text.joined ',' ((first :: later).map quoted)).map .char ++ [.char ']'])).length + 2 =
        bound + later.length + 2 + 1 := by
      have short := length_le_length_joined (first :: later)
      refine ⟨2 * (Text.joined ',' ((first :: later).map quoted)).length + 3 - later.length, ?_⟩
      simp only [List.length_cons, List.length_append, List.length_map, List.length_nil] at short ⊢
      omega
    rw [enough, greatestDepth, document_bracket, skipSpaces_joined, items_quoted]
    · rfl
    · obtain ⟨tail, starts⟩ := exists_joined_quoted first later
      rw [skipSpaces_joined, starts]
      simp

/-! ### Words and numbers -/

def isPlain (c : Char) : Bool :=
  c.isAlphanum || c == '+' || c == '-' || c == '.'

/-- Whether a document has no parts: it is a word or a number. -/
def isAtom : Document → Bool
  | .null => true
  | .bool _ => true
  | .int _ => true
  | .float _ => true
  | _ => false

def isOpening (p : CodePoint) : Bool :=
  p = .char '"' || p = .char '[' || p = .char '{'

theorem run_append (ps : List CodePoint) : (run ps).1.map .char ++ (run ps).2 = ps := by
  fun_induction run ps with
  | case1 c ps plain word later same ih => simpa [same] using ih
  | case2 => rfl
  | case3 => rfl

theorem isPlain_of_mem_run {c : Char} {ps : List CodePoint} (membership : c ∈ (run ps).1) :
    isPlain c = true := by
  fun_induction run ps with
  | case1 c' ps plain word later same ih =>
    rcases List.mem_cons.mp membership with rfl | there
    · exact plain
    · rw [same] at ih
      exact ih there
  | case2 => cases membership
  | case3 => cases membership

section Scalar

variable {negative : Bool} {cs left : List Char} {ps rest : List CodePoint} {d : Document}

theorem isAtom_of_number (named : number negative cs = .ok (d, left)) :
    isAtom d = true ∧ cs ≠ [] := by
  unfold number at named
  split at named
  next => cases named
  next ds after found =>
    refine ⟨?_, fun empty => ?_⟩
    · split at named
      split at named
      split at named
      · split at named <;> cases named
        rfl
      · cases named
        rfl
    · subst empty
      cases found

theorem number_ne_depth : number negative cs ≠ .error (.beyond .depth) := by
  intro refused
  unfold number at refused
  split at refused
  next => cases refused
  next ds after found =>
    split at refused
    split at refused
    split at refused
    · split at refused <;> cases refused
    · cases refused

theorem isAtom_of_word? (named : word? cs = some (d, left)) : isAtom d = true ∧ cs ≠ [] := by
  constructor
  · obtain ⟨⟨word, meaning⟩, listed, found⟩ := List.exists_of_findSome?_eq_some named
    obtain ⟨later, -, same⟩ := Option.map_eq_some_iff.mp found
    cases same
    simp only [List.mem_cons, Prod.mk.injEq, List.not_mem_nil, or_false] at listed
    rcases listed with ⟨-, rfl⟩ | ⟨-, rfl⟩ | ⟨-, rfl⟩ | ⟨-, rfl⟩ | ⟨-, rfl⟩ | ⟨-, rfl⟩ <;> rfl
  · rintro rfl
    cases named

theorem isAtom_of_wordOrNumber (named : wordOrNumber cs = .ok (d, left)) :
    isAtom d = true ∧ cs ≠ [] := by
  unfold wordOrNumber at named
  split at named
  next found same =>
    cases named
    exact isAtom_of_word? same
  next =>
    split at named
    next => exact ⟨(isAtom_of_number named).1, List.cons_ne_nil _ _⟩
    next => exact isAtom_of_number named

theorem wordOrNumber_ne_depth : wordOrNumber cs ≠ .error (.beyond .depth) := by
  unfold wordOrNumber
  split
  next => nofun
  next => split <;> exact number_ne_depth

theorem scalar_eq :
    scalar ps = (wordOrNumber (run ps).1).map fun found =>
      (found.1, found.2.map .char ++ (run ps).2) :=
  rfl

/-- What is read at the start of a word or a number, with the run of its characters. -/
theorem isAtom_of_scalar (named : scalar ps = .ok (d, rest)) :
    isAtom d = true ∧ (run ps).1 ≠ [] ∧
      ∃ left : List Char, rest = left.map .char ++ (run ps).2 := by
  rw [scalar_eq] at named
  cases read : wordOrNumber (run ps).1 with
  | error fault =>
    rw [read] at named
    cases named
  | ok found =>
    rw [read] at named
    cases named
    obtain ⟨atom, nonempty⟩ := isAtom_of_wordOrNumber read
    exact ⟨atom, nonempty, found.2, rfl⟩

theorem scalar_ne_depth : scalar ps ≠ .error (.beyond .depth) := by
  rw [scalar_eq]
  cases read : wordOrNumber (run ps).1 with
  | error fault =>
    rintro ⟨⟩
    exact wordOrNumber_ne_depth read
  | ok found => nofun

theorem document_eq_scalar (closed : ∀ p ∈ ps.head?, isOpening p = false) :
    document (bound + 1) depth ps = scalar ps := by
  rw [document.eq_def]
  dsimp only
  split <;> first | rfl | simp [isOpening] at closed

/-- Where no text, list or record is opened, what is read is one word or number between spaces. -/
theorem read_eq_ok_of_plain (closed : ∀ p ∈ (skipSpaces ps).head?, isOpening p = false)
    (named : read ps = .ok d) :
    isAtom d = true ∧ ∃ word later, skipSpaces ps = word.map .char ++ later ∧ word ≠ [] ∧
      (∀ c ∈ word, isPlain c = true) ∧ ∀ p ∈ later, isSpace p = true := by
  rw [read, document_eq_scalar closed] at named
  split at named
  next d' rest found =>
    split at named
    next spaces =>
      cases named
      obtain ⟨atom, nonempty, left, rfl⟩ := isAtom_of_scalar found
      refine ⟨atom, _, _, (run_append _).symm, nonempty, fun c => isPlain_of_mem_run, ?_⟩
      intro p membership
      rw [skipSpaces, List.isEmpty_iff, List.dropWhile_eq_nil_iff] at spaces
      exact spaces p (List.mem_append_right _ membership)
    next => cases named
  next => cases named

theorem read_ne_depth (closed : ∀ p ∈ (skipSpaces ps).head?, isOpening p = false) :
    read ps ≠ .error (.beyond .depth) := by
  rw [read, document_eq_scalar closed]
  split
  next => split <;> nofun
  next fault refused =>
    rintro ⟨⟩
    exact scalar_ne_depth refused

theorem exists_record_of_document {later : List CodePoint}
    (named : document (bound + 1) (depth + 1) (.char '{' :: later) = .ok (d, rest)) :
    ∃ entries, d = .record entries := by
  rw [document] at named
  split at named
  next =>
    cases named
    exact ⟨_, rfl⟩
  next =>
    cases given : entries bound depth [] (skipSpaces later) with
    | error fault =>
      rw [given] at named
      cases named
    | ok found =>
      rw [given] at named
      cases named
      exact ⟨_, rfl⟩

/-- Where a brace opens a record, nothing else is read. -/
theorem exists_record_of_read {later : List CodePoint}
    (opened : skipSpaces ps = .char '{' :: later) (named : read ps = .ok d) :
    ∃ entries, d = .record entries := by
  rw [read, opened] at named
  split at named
  next d' rest found =>
    split at named
    next =>
      cases named
      exact exists_record_of_document found
    next => cases named
  next => cases named

end Scalar

end Timetabling.Json

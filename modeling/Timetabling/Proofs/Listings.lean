import Timetabling.Configuration.Basic
import Timetabling.Proofs.JsonTexts
import Timetabling.Proofs.KeyForms

/-!
# Listed origins

A list of origins is given in one text, by commas with blanks around the items. Given directly, the
text is cut into these items. As a variable of the environment it has to be a JSON text first, and a
list with commas is none: it is refused, or it is a word or a record and never stands for its items.
The JSON text of a list is read either way.
-/

namespace Timetabling

namespace Text

variable {α : Type} {p q : α → Bool} {cs before after : List α} {c : α}

theorem dropWhile_dropWhile_of_imp (weaker : ∀ c, q c = true → p c = true) :
    (cs.dropWhile q).dropWhile p = cs.dropWhile p := by
  induction cs with
  | nil => rfl
  | cons c rest ih =>
    by_cases dropped : q c = true
    · rw [List.dropWhile_cons_of_pos dropped, List.dropWhile_cons_of_pos (weaker c dropped), ih]
    · rw [List.dropWhile_cons_of_neg dropped]

theorem strip_padded (first : ∀ c ∈ before, p c = true) (last : ∀ c ∈ after, p c = true) :
    strip p (before ++ cs ++ after) = strip p cs := by
  induction after using List.reverseRecOn with
  | nil => rw [List.append_nil, strip, List.dropWhile_append_of_pos first, strip]
  | append_singleton after c ih =>
    have dropped : p c = true := last c (by simp)
    have later : ∀ a ∈ after, p a = true := fun a membership => last a (by simp [membership])
    rw [← List.append_assoc, strip_concat dropped, ih later]

theorem head?_strip (p : α → Bool) (cs : List α) : (strip p cs).head? = (cs.dropWhile p).head? := by
  rw [← strip_dropWhile]
  cases kept : cs.dropWhile p with
  | nil => rfl
  | cons c rest =>
    have stays : p c = false := by
      have stopped := List.head?_dropWhile_not p cs
      rw [kept] at stopped
      simpa using stopped
    rw [strip_eq_rdropWhile (by simp [stays])]
    rw [← List.nil_append (c :: rest), rdropWhile_append_cons stays]
    rfl

theorem strip_map {β : Type} {p : β → Bool} (f : α → β) (cs : List α) :
    strip p (cs.map f) = (strip (p ∘ f) cs).map f := by
  simp only [strip, List.dropWhile_map, ← List.map_reverse]

theorem exists_joined_cons (separator : α) (first : List α) (rest : List (List α)) :
    ∃ tail, joined separator (first :: rest) = first ++ tail := by
  cases rest with
  | nil => exact ⟨[], (List.append_nil first).symm⟩
  | cons second rest => exact ⟨_, rfl⟩

section Pieces

variable [DecidableEq α] {separator : α}

/-- What has been joined is cut into its pieces again. -/
theorem pieces_joined {ps : List (List α)} (nonempty : ps ≠ [])
    (clear : ∀ piece ∈ ps, separator ∉ piece) : pieces separator (joined separator ps) = ps := by
  induction ps with
  | nil => exact absurd rfl nonempty
  | cons first rest ih =>
    obtain ⟨here, later⟩ := List.forall_mem_cons.mp clear
    cases rest with
    | nil => exact pieces_of_notMem here
    | cons second rest => rw [joined, pieces_append_cons here, ih (List.cons_ne_nil _ _) later]

theorem pieces_map {β : Type} [DecidableEq β] {f : α → β} (injective : Function.Injective f)
    (separator : α) (cs : List α) :
    pieces (f separator) (cs.map f) = (pieces separator cs).map (List.map f) := by
  induction cs with
  | nil => rfl
  | cons c rest ih =>
    rw [List.map_cons, pieces, pieces, ih]
    by_cases same : c = separator
    · rw [if_pos same, if_pos (congrArg f same)]
      rfl
    · rw [if_neg same, if_neg (injective.ne same)]
      cases pieces separator rest <;> rfl

end Pieces

end Text

namespace Origins

open Text (isBlank)

/-! ### Lists with commas -/

/-- A text that can be an item of a list with commas. -/
structure IsItem (item : String) : Prop where
  nonempty : item.toList ≠ []
  clear : ',' ∉ item.toList
  bare : Text.trimmed item.toList = item.toList

instance (item : String) : Decidable (IsItem item) :=
  decidable_of_iff
    (item.toList ≠ [] ∧ ',' ∉ item.toList ∧ Text.trimmed item.toList = item.toList)
    ⟨fun parts => ⟨parts.1, parts.2.1, parts.2.2⟩,
      fun proper => ⟨proper.nonempty, proper.clear, proper.bare⟩⟩

def Padded (piece : List Char) (item : String) : Prop :=
  ∃ before after : List Char, piece = before ++ item.toList ++ after ∧
    (∀ c ∈ before, isBlank c = true) ∧ ∀ c ∈ after, isBlank c = true

/-- A text that lists items by commas. -/
structure Lists (text : String) (items : List String) : Prop where
  proper : ∀ item ∈ items, IsItem item
  spelled : ∃ pieces, text.toList = Text.joined ',' pieces ∧ List.Forall₂ Padded pieces items

def firstChar? (items : List String) : Option Char :=
  items.head?.bind fun item => item.toList.head?

variable {text item : String} {items : List String} {piece : List Char} {c : Char}

theorem padded_self (item : String) : Padded item.toList item :=
  ⟨[], [], by simp, by simp, by simp⟩

theorem Padded.trimmed_eq (padded : Padded piece item) (proper : IsItem item) :
    Text.trimmed piece = item.toList := by
  obtain ⟨before, after, rfl, first, last⟩ := padded
  exact (Text.strip_padded first last).trans proper.bare

theorem Padded.clear (padded : Padded piece item) (proper : IsItem item) : ',' ∉ piece := by
  have visible : isBlank ',' = false := by decide
  intro membership
  have kept : ',' ∈ Text.trimmed piece := Text.mem_strip membership visible
  rw [padded.trimmed_eq proper] at kept
  exact proper.clear kept

theorem trimmed_pieces {pieces : List (List Char)} (padded : List.Forall₂ Padded pieces items)
    (proper : ∀ item ∈ items, IsItem item) :
    pieces.map Text.trimmed = items.map String.toList ∧ ∀ piece ∈ pieces, ',' ∉ piece := by
  induction padded with
  | nil => exact ⟨rfl, by simp⟩
  | cons here _ ih =>
    obtain ⟨first, rest⟩ := List.forall_mem_cons.mp proper
    obtain ⟨same, clear⟩ := ih rest
    constructor
    · rw [List.map_cons, List.map_cons, here.trimmed_eq first, same]
    · exact List.forall_mem_cons.mpr ⟨here.clear first, clear⟩

theorem IsItem.isBlank_first (proper : IsItem item) (first : c ∈ item.toList.head?) :
    isBlank c = false := by
  have kept := Text.head?_strip isBlank item.toList
  have stopped := List.head?_dropWhile_not isBlank item.toList
  change (Text.trimmed item.toList).head? = _ at kept
  rw [proper.bare] at kept
  rw [← kept, Option.mem_def.mp first] at stopped
  simpa using stopped

/-- Behind its blanks a list starts with its first item. -/
theorem Lists.head?_trimmed (lists : Lists text items) :
    (Text.trimmed text.toList).head? = firstChar? items := by
  obtain ⟨proper, pieces, spelled, padded⟩ := lists
  rw [Text.trimmed, Text.head?_strip, spelled]
  cases padded with
  | nil => rfl
  | @cons piece item pieces items here later =>
    have itemProper := proper item (by simp)
    obtain ⟨tail, starts⟩ := Text.exists_joined_cons ',' piece pieces
    obtain ⟨c, rest, begins⟩ := List.exists_cons_of_ne_nil itemProper.nonempty
    have visible : isBlank c = false := itemProper.isBlank_first (by simp [begins])
    obtain ⟨before, after, rfl, blank, -⟩ := here
    rw [starts, List.append_assoc, List.append_assoc, List.dropWhile_append_of_pos blank, begins]
    simp [firstChar?, begins, visible]

theorem char_injective : Function.Injective CodePoint.char :=
  fun _ _ same => CodePoint.char.inj same

theorem strip_ofText (cs : List Char) :
    Text.strip CodePoint.isBlank (cs.map .char) = (Text.trimmed cs).map .char :=
  Text.strip_map CodePoint.char cs

theorem map_cleaned {ps : List (List CodePoint)}
    (stripped : ps.map (Text.strip CodePoint.isBlank) = items.map CodePoint.ofText)
    (proper : ∀ item ∈ items, IsItem item) : (cleaned ps).map CodePoint.toText = items := by
  have kept : (items.map CodePoint.ofText).filter (fun item => !item.isEmpty) =
      items.map CodePoint.ofText := by
    apply List.filter_eq_self.mpr
    intro points membership
    obtain ⟨item, listed, rfl⟩ := List.mem_map.mp membership
    simpa [CodePoint.ofText] using (proper item listed).nonempty
  have same : CodePoint.toText ∘ CodePoint.ofText = id := funext CodePoint.toText_ofText
  rw [cleaned, stripped, kept, List.map_map, same, List.map_id]

theorem bracketed?_eq_none (plain : (Text.trimmed text.toList).head? ≠ some '[') :
    bracketed? (CodePoint.ofText text) = .ok none := by
  unfold bracketed?
  rw [CodePoint.ofText, strip_ofText]
  dsimp only
  rw [List.head?_map]
  split
  next first =>
    obtain ⟨c, here, same⟩ := Option.map_eq_some_iff.mp first
    cases same
    exact absurd here plain
  next => rfl

theorem ofText_of_lists (lists : Lists text items) (plain : firstChar? items ≠ some '[') :
    ofText (CodePoint.ofText text) = .ok items := by
  rw [ofText, bracketed?_eq_none (lists.head?_trimmed ▸ plain)]
  obtain ⟨proper, pieces, spelled, padded⟩ := lists
  obtain ⟨trimmed, clear⟩ := trimmed_pieces padded proper
  have cut : separated (CodePoint.ofText text) =
      (Text.pieces ',' text.toList).map (List.map .char) :=
    Text.pieces_map char_injective ',' text.toList
  change Except.ok ((cleaned (separated (CodePoint.ofText text))).map CodePoint.toText) = _
  congr 1
  rw [cut, spelled]
  cases padded with
  | nil => rfl
  | cons =>
    rw [Text.pieces_joined (List.cons_ne_nil _ _) clear]
    apply map_cleaned _ proper
    rw [List.map_map]
    have each : Text.strip CodePoint.isBlank ∘ List.map .char =
        List.map CodePoint.char ∘ Text.trimmed := funext strip_ofText
    rw [each, ← List.map_map, trimmed, List.map_map]
    rfl

/-! ### Lists in JSON -/

theorem toValues_texts (items : List String) :
    Document.toValues (items.map fun item => .text (CodePoint.ofText item)) = items.map .text := by
  induction items with
  | nil => rfl
  | cons item rest ih =>
    rw [List.map_cons, Document.toValues, ih, Document.toValue, CodePoint.toText_ofText,
      List.map_cons]

theorem ofValue_texts (items : List String) :
    ofValue (.list (items.map .text)) = .ok (.valid items) := by
  have read : Reader.allFrom Reader.text 0 (items.map .text) = .valid items := by
    apply Reader.allFrom_eq_valid_iff.mpr
    apply List.forall₂_map_left_iff.mpr
    exact List.forall₂_same.mpr fun item _ => rfl
  exact congrArg Except.ok read

theorem ofDocument_texts (items : List String) :
    ofDocument (.list (items.map fun item => .text (CodePoint.ofText item))) =
      .ok (.valid items) := by
  rw [ofDocument, Document.toValue, toValues_texts, ofValue_texts]
  nofun

theorem bracketed?_listText (items : List String) :
    bracketed? (CodePoint.ofText (Json.listText items)) =
      .ok (some (items.map CodePoint.ofText)) := by
  have written : (Json.listText items).toList =
      ('[' :: Text.joined ',' (items.map Json.quoted)) ++ [']'] := by
    simp [Json.listText]
  -- The brackets at both ends are no blanks.
  have bare : Text.trimmed (Json.listText items).toList = (Json.listText items).toList := by
    rw [written]
    apply Text.strip_eq_self
    · rintro c ⟨⟩
      decide
    · rw [List.getLast?_concat]
      rintro c ⟨⟩
      decide
  have trimmed : Text.strip CodePoint.isBlank (CodePoint.ofText (Json.listText items)) =
      CodePoint.ofText (Json.listText items) := by
    rw [CodePoint.ofText, strip_ofText, bare]
  have starts : (CodePoint.ofText (Json.listText items)).head? = some (.char '[') := by
    rw [CodePoint.ofText, written]
    rfl
  unfold bracketed?
  simp only [trimmed, starts, Json.read_listText, List.map_map]
  rfl

theorem ofText_listText (proper : ∀ item ∈ items, IsItem item) :
    ofText (CodePoint.ofText (Json.listText items)) = .ok items := by
  rw [ofText, bracketed?_listText]
  change Except.ok ((cleaned (items.map CodePoint.ofText)).map CodePoint.toText) = _
  congr 1
  apply map_cleaned _ proper
  rw [List.map_map]
  apply List.map_congr_left
  intro item membership
  rw [Function.comp_apply, CodePoint.ofText, strip_ofText, (proper item membership).bare]

/-! ### Lists with commas as JSON -/

theorem isBlank_of_isSpace (space : Json.isSpace (.char c) = true) : isBlank c = true := by
  simp only [Json.isSpace, Bool.or_eq_true, decide_eq_true_eq, CodePoint.char.injEq] at space
  rcases space with ((rfl | rfl) | rfl) | rfl <;> decide

theorem isBlank_of_isPlain (plain : Json.isPlain c = true) : isBlank c = false := by
  -- Words and numbers are made of characters between the plus sign and the last small letter.
  have placed : 0x2B ≤ c.toNat ∧ c.toNat ≤ 0x7A := by
    simp only [Json.isPlain, Bool.or_eq_true, beq_iff_eq] at plain
    rcases plain with ((named | rfl) | rfl) | rfl
    · change ((decide ('A'.val ≤ c.val ∧ c.val ≤ 'Z'.val) ||
        ('a'.val ≤ c.val && c.val ≤ 'z'.val)) ||
          ('0'.val ≤ c.val && c.val ≤ '9'.val)) = true at named
      simp only [Bool.or_eq_true, Bool.and_eq_true, decide_eq_true_eq, UInt32.le_iff_toNat_le]
        at named
      change 0x2B ≤ c.val.toNat ∧ c.val.toNat ≤ 0x7A
      rcases named with (letter | letter) | digit
      · exact ⟨le_trans (by decide) letter.1, le_trans letter.2 (by decide)⟩
      · exact ⟨le_trans (by decide) letter.1, le_trans letter.2 (by decide)⟩
      · exact ⟨le_trans (by decide) digit.1, le_trans digit.2 (by decide)⟩
    all_goals decide
  simp only [isBlank, Text.isSpacing, Bool.or_eq_false_iff, Bool.and_eq_false_iff,
    decide_eq_false_iff_not, beq_eq_false_iff_ne]
  omega

theorem dropWhile_isBlank (cs : List Char) :
    (cs.dropWhile (Json.isSpace ∘ CodePoint.char)).dropWhile isBlank = cs.dropWhile isBlank :=
  Text.dropWhile_dropWhile_of_imp fun _ => isBlank_of_isSpace

/-- What comes first behind the spaces of JSON comes first behind all blanks, unless it is one. -/
theorem head?_trimmed_of_skipSpaces {later : List CodePoint}
    (next : Json.skipSpaces (CodePoint.ofText text) = .char c :: later)
    (visible : isBlank c = false) : (Text.trimmed text.toList).head? = some c := by
  rw [Json.skipSpaces, CodePoint.ofText, List.dropWhile_map] at next
  obtain ⟨first, rest, behind, same, -⟩ := List.map_eq_cons_iff.mp next
  cases same
  rw [Text.trimmed, Text.head?_strip, ← dropWhile_isBlank, behind]
  simp [visible]

theorem trimmed_eq_of_skipSpaces {word : List Char} {later : List CodePoint}
    (next : Json.skipSpaces (CodePoint.ofText text) = word.map .char ++ later)
    (plain : ∀ c ∈ word, Json.isPlain c = true) (spaces : ∀ p ∈ later, Json.isSpace p = true) :
    Text.trimmed text.toList = word := by
  rw [Json.skipSpaces, CodePoint.ofText, List.dropWhile_map] at next
  obtain ⟨word', after, behind, same, rfl⟩ := List.map_eq_append_iff.mp next
  rw [char_injective.list_map same] at behind
  have blank : ∀ c ∈ after, isBlank c = true := fun c membership =>
    isBlank_of_isSpace (spaces _ (List.mem_map_of_mem membership))
  have visible : ∀ c ∈ word, isBlank c = false := fun c membership =>
    isBlank_of_isPlain (plain c membership)
  have padded : Text.strip isBlank ([] ++ word ++ after) = Text.strip isBlank word :=
    Text.strip_padded (by simp) blank
  rw [Text.trimmed, ← Text.strip_dropWhile, ← dropWhile_isBlank, Text.strip_dropWhile, behind,
    ← List.nil_append word, padded]
  exact Text.strip_eq_self (fun c first => visible c (List.mem_of_mem_head? first))
    (fun c last => visible c (List.mem_of_mem_getLast? last))

theorem Lists.eq_singleton {word : List Char} (lists : Lists text items)
    (trimmed : Text.trimmed text.toList = word) (nonempty : word ≠ []) (clear : ',' ∉ word) :
    ∃ item, items = [item] ∧ item.toList = word := by
  obtain ⟨proper, pieces, spelled, padded⟩ := lists
  rw [spelled] at trimmed
  cases padded with
  | nil => exact absurd trimmed.symm nonempty
  | @cons piece item pieces items here later =>
    cases later with
    | nil =>
      rw [Text.joined, here.trimmed_eq (proper item (by simp))] at trimmed
      exact ⟨item, rfl, trimmed⟩
    | @cons second _ rest _ _ _ =>
      -- The comma behind the first item is no blank.
      have kept : ',' ∈ Text.trimmed (Text.joined ',' (piece :: second :: rest)) :=
        Text.mem_strip (List.mem_append_right piece (List.mem_cons_self ..)) (by decide)
      rw [trimmed] at kept
      exact absurd kept clear

theorem Lists.starts_of_opening (lists : Lists text items) {p : CodePoint}
    (first : p ∈ (Json.skipSpaces (CodePoint.ofText text)).head?)
    (opening : Json.isOpening p = true) :
    ∃ c later, Json.skipSpaces (CodePoint.ofText text) = .char c :: later ∧
      firstChar? items = some c ∧ (c = '"' ∨ c = '[' ∨ c = '{') := by
  obtain ⟨later, next⟩ := List.head?_eq_some_iff.mp first
  simp only [Json.isOpening, Bool.or_eq_true, decide_eq_true_eq] at opening
  rcases opening with (rfl | rfl) | rfl
  all_goals
    refine ⟨_, later, next, ?_, by simp⟩
    rw [← lists.head?_trimmed]
    exact head?_trimmed_of_skipSpaces next (by decide)

/-- A list with commas is no JSON text, unless it starts as a text, a list or a record does, or its
one item is a word or a number. -/
theorem Lists.of_read {d : Document} (lists : Lists text items)
    (noQuote : firstChar? items ≠ some '"') (noBracket : firstChar? items ≠ some '[')
    (read : Json.read (CodePoint.ofText text) = .ok d) :
    (firstChar? items = some '{' ∧ ∃ entries, d = .record entries) ∨
      Json.isAtom d = true ∧ ∃ item, items = [item] ∧ ∀ c ∈ item.toList, Json.isPlain c = true := by
  by_cases opened : ∃ p ∈ (Json.skipSpaces (CodePoint.ofText text)).head?, Json.isOpening p = true
  · left
    obtain ⟨p, first, opening⟩ := opened
    obtain ⟨c, later, next, starts, rfl | rfl | rfl⟩ := lists.starts_of_opening first opening
    · exact absurd starts noQuote
    · exact absurd starts noBracket
    · exact ⟨starts, Json.exists_record_of_read next read⟩
  · right
    have closed (p) (first : p ∈ (Json.skipSpaces (CodePoint.ofText text)).head?) :
        Json.isOpening p = false :=
      Bool.eq_false_iff.mpr fun opening => opened ⟨p, first, opening⟩
    obtain ⟨atom, word, later, next, nonempty, plain, spaces⟩ :=
      Json.read_eq_ok_of_plain closed read
    have clear : ',' ∉ word := by
      intro membership
      cases plain ',' membership
    have trimmed := trimmed_eq_of_skipSpaces next plain spaces
    obtain ⟨item, rfl, same⟩ := lists.eq_singleton trimmed nonempty clear
    exact ⟨atom, item, rfl, same ▸ plain⟩

theorem Lists.read_ne_depth (lists : Lists text items) (noQuote : firstChar? items ≠ some '"')
    (noBracket : firstChar? items ≠ some '[') (noBrace : firstChar? items ≠ some '{') :
    Json.read (CodePoint.ofText text) ≠ .error (.beyond .depth) := by
  apply Json.read_ne_depth
  intro p first
  apply Bool.eq_false_iff.mpr
  intro opening
  obtain ⟨c, later, -, starts, rfl | rfl | rfl⟩ := lists.starts_of_opening first opening
  · exact noQuote starts
  · exact noBracket starts
  · exact noBrace starts

end Origins

end Timetabling

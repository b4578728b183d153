import Timetabling.Proofs.Listings
import Timetabling.Proofs.Rosters

/-!
# Configurations with listed origins

The origins of a configuration are read apart from its other entries. A list of origins that is
given directly by commas, or by its JSON text either way, changes nothing else in the configuration.
A variable of the environment has to be a JSON text before it is cut at its commas, so that a list
with commas gives no configuration there.
-/

namespace Timetabling

namespace Text.Lowercase

def isSmall (c : Char) : Bool :=
  c.toNat < 128 && !(65 ≤ c.toNat && c.toNat ≤ 90)

theorem ofNumber_of_isSmall {c : Char} (small : isSmall c = true) : ofNumber c.toNat = c.toNat := by
  simp only [isSmall, Bool.and_eq_true, Bool.not_eq_true', decide_eq_true_eq,
    Bool.and_eq_false_iff, decide_eq_false_iff_not] at small
  -- The first row is that of the ASCII letters, and all others are behind ASCII.
  have behind : ∀ row ∈ rows, (row.1 = 65 ∧ row.2.1 = 90) ∨ 128 ≤ row.1 := by decide +kernel
  unfold ofNumber
  split
  next first last step image found =>
    have placed := behind _ (List.mem_of_find?_eq_some found)
    have between := List.find?_some found
    simp only [Bool.and_eq_true, decide_eq_true_eq] at between
    dsimp only at placed
    omega
  next => rfl

theorem ofText_of_small {s : String} (small : s.toList.all isSmall = true) : ofText s = s := by
  have each (before cs : List Char) (small : ∀ c ∈ cs, isSmall c = true) :
      ofChars before cs = cs := by
    induction cs generalizing before with
    | nil => rfl
    | cons c rest ih =>
      obtain ⟨here, later⟩ := List.forall_mem_cons.mp small
      have noSigma : c ≠ 'Σ' := by
        rintro rfl
        cases here
      have noDot : c ≠ 'İ' := by
        rintro rfl
        cases here
      rw [ofChars, if_neg noSigma, if_neg noDot, ofNumber_of_isSmall here, Char.ofNat_toNat,
        ih _ later]
      rfl
  rw [ofText, each [] s.toList (List.all_eq_true.mp small), String.ofList_toList]

end Text.Lowercase

namespace Configuration

open Reader

variable {entries : List (String × Value)} {environment : List (String × String)}
  {origins others : List String} {v : Value} {c : Configuration}

def withOrigins (origins : List String) (c : Configuration) : Configuration :=
  { c with origins }

/-- The configuration of entries, with the origins that have been read. -/
def finish (entries : List (String × Value)) (origins : Validated (List String)) :
    Except ConfigurationFault Configuration :=
  match ofEntries entries origins with
  | .valid c => .ok c
  | .invalid faults => .error (.invalid faults)

theorem read_variables :
    read environment [] =
      (({} : Lookup).document? environment originsName).bind fun listed =>
        (readOrigins none listed).bind
          (finish (Entries.collect (variableEntries {} environment))) := by
  rw [← List.append_nil (variableEntries {} environment)]
  rfl

theorem get?_listed {name : String} (other : name ≠ originsName) :
    Entries.get? name [(originsName, v)] = none := by
  simp [Entries.get?, Ne.symm other]

theorem isSourceless_listed : Lookup.isSourceless [(originsName, v)] = .ok false := by
  rw [Lookup.isSourceless, get?_listed (by decide)]

theorem lookup_listed : Lookup.ofEntries [(originsName, v)] = .ok {} := by
  have proper : Lookup.areProper [(originsName, v)] = true := by
    apply List.all_eq_true.mpr
    intro kind listed
    have others : ∀ kind ∈ Lookup.kinds, kind.1 ≠ originsName := by decide
    simp only [get?_listed (others kind listed), Option.map_none, Option.getD_none]
  simp (disch := decide) only [Lookup.ofEntries, proper, Lookup.switch, Lookup.readPrefix,
    Lookup.readDelimiter, Lookup.canDivideNames, Lookup.textual?, get?_listed]
  rfl

theorem isPrefixCaseless_listed : Lookup.isPrefixCaseless [(originsName, v)] = false := by
  rw [Lookup.isPrefixCaseless, get?_listed (by decide)]
  simp

theorem givenEntries_listed : givenEntries [(originsName, v)] = [(originsName, v)] := by
  have lower : Text.Lowercase.ofText originsName = originsName := by decide +kernel
  have named : names.contains originsName = true := by decide
  simp only [givenEntries, List.filter_cons, List.filter_nil, lower, named, if_true, List.map_cons,
    List.map_nil]
  rfl

theorem read_given :
    read environment [(originsName, v)] =
      (({} : Lookup).document? environment originsName).bind fun listed =>
        (readOrigins (some v) listed).bind
          (finish (Entries.collect (variableEntries {} environment ++ [(originsName, v)]))) := by
  have found : Entries.get? originsName [(originsName, v)] = some v := by simp [Entries.get?]
  rw [read, isSourceless_listed, lookup_listed, givenEntries_listed, isPrefixCaseless_listed,
    ← found]
  rfl

/-! ### Origins and other entries -/

theorem get?_append_listed {name : String} (other : name ≠ originsName) :
    Entries.get? name (entries ++ [(originsName, v)]) = Entries.get? name entries := by
  rw [Entries.get?_append, get?_listed other, Option.or_none]

theorem checkNames_append_listed :
    checkNames (entries ++ [(originsName, v)]) = checkNames entries := by
  have named : names.contains originsName = true := by decide
  simp only [checkNames, List.filter_append, List.filter_cons, List.filter_nil, named,
    Bool.not_true, Bool.false_eq_true, if_false, List.append_nil]

theorem ofEntries_append_listed (read : Validated (List String)) :
    ofEntries (entries ++ [(originsName, v)]) read = ofEntries entries read := by
  simp (disch := decide) only [ofEntries, fieldOr, get?_append_listed, checkNames_append_listed]

theorem eq_valid_of_ofEntries {read : Validated (List String)}
    (accepted : ofEntries entries read = .valid c) : read = .valid c.origins := by
  simp only [ofEntries, Validated.seq_eq_valid_iff, Validated.fmap_eq_valid_iff,
    Validated.under_eq_valid_iff, ↓existsAndEq, and_true] at accepted
  obtain ⟨_, _, _, _, _, _, _, _, _, _, _, _, _, _, _, ⟨-, rfl⟩, _, -, rfl⟩ := accepted
  rfl

/-- Readers that put the origins into a configuration put any origins into the same one. -/
theorem apply_listed {f : Validated (List String → Configuration)} {check : Validated Unit}
    (steady : ∀ make, f = .valid make → make origins = withOrigins origins (make others)) :
    (fun c _ => c) <$> (f <*> (Validated.valid origins).under (.key originsName)) <*> check =
      ((fun c _ => c) <$> (f <*> (Validated.valid others).under (.key originsName)) <*> check).map
        (withOrigins origins) := by
  cases f with
  | invalid faults => cases check <;> rfl
  | valid make =>
    cases check with
    | invalid faults => rfl
    | valid u => exact congrArg Validated.valid (steady make rfl)

theorem ofEntries_valid (origins others : List String) :
    ofEntries entries (.valid origins) =
      (ofEntries entries (.valid others)).map (withOrigins origins) := by
  apply apply_listed
  intro make made
  simp only [Validated.seq_eq_valid_iff, Validated.fmap_eq_valid_iff, ↓existsAndEq, and_true]
    at made
  obtain ⟨_, _, _, _, _, _, _, _, _, _, _, _, _, _, -, -, rfl⟩ := made
  rfl

theorem finish_valid (origins others : List String) :
    finish entries (.valid origins) =
      (finish entries (.valid others)).map (withOrigins origins) := by
  unfold finish
  rw [ofEntries_valid origins others]
  cases ofEntries entries (.valid others) <;> rfl

theorem eq_valid_of_finish {read : Validated (List String)}
    (accepted : finish entries read = .ok c) : read = .valid c.origins := by
  unfold finish at accepted
  split at accepted
  next read =>
    cases accepted
    exact eq_valid_of_ofEntries read
  next => cases accepted

/-! ### Variables -/

theorem originsName_notMem_variableEntries (lookup : Lookup) :
    originsName ∉ (variableEntries lookup environment).map Prod.fst := by
  intro membership
  obtain ⟨⟨name, v⟩, listed, rfl⟩ := List.mem_map.mp membership
  obtain ⟨other, kept, found⟩ := List.mem_filterMap.mp listed
  obtain ⟨w, -, same⟩ := Option.map_eq_some_iff.mp found
  cases same
  simp at kept

theorem collect_append_listed :
    Entries.collect (variableEntries {} environment ++ [(originsName, v)]) =
      Entries.collect (variableEntries {} environment) ++ [(originsName, v)] := by
  rw [Entries.collect_concat, Entries.insert_of_notMem]
  rw [Entries.keys_collect, List.mem_eraseDups]
  exact originsName_notMem_variableEntries {}

/-- No variable lists the origins. -/
def Unlisted (environment : List (String × String)) : Prop :=
  ∀ entry ∈ environment, Text.Lowercase.ofText entry.1 ≠ originsName

theorem text?_eq {name : String} (named : name ∈ names) :
    ({} : Lookup).text? environment name =
      (environment.filter fun entry => Text.Lowercase.ofText entry.1 == name).getLast?.map
        Prod.snd := by
  have small : (names.all fun name => name.toList.all Text.Lowercase.isSmall) = true := by
    decide +kernel
  have same : ({} : Lookup).variableName name = name := by
    change Text.Lowercase.ofText ("" ++ name) = name
    rw [String.empty_append, Text.Lowercase.ofText_of_small (List.all_eq_true.mp small name named)]
  rw [Lookup.text?, same]
  simp only [Bool.false_and, Bool.not_false, Bool.and_true]
  rfl

theorem lower_variable : Text.Lowercase.ofText "CORS_ORIGINS" = originsName := by decide +kernel

theorem variableEntries_eq :
    variableEntries {} environment = (names.filter (· != originsName)).filterMap fun name =>
      (environment.filter fun entry => Text.Lowercase.ofText entry.1 == name).getLast?.map
        fun entry => (name, .text entry.2) := by
  apply List.filterMap_congr
  intro name listed
  rw [Lookup.value?, text?_eq (List.mem_filter.mp listed).1, Option.map_map, Option.map_map]
  rfl

theorem variableEntries_cons {t : String} :
    variableEntries {} (("CORS_ORIGINS", t) :: environment) = variableEntries {} environment := by
  rw [variableEntries_eq, variableEntries_eq]
  apply List.filterMap_congr
  intro name listed
  have apart : (originsName == name) = false :=
    beq_eq_false_iff_ne.mpr (Ne.symm (bne_iff_ne.mp (List.mem_filter.mp listed).2))
  rw [List.filter_cons_of_neg]
  rw [lower_variable, apart]
  exact Bool.false_ne_true

theorem Unlisted.filter_eq (unlisted : Unlisted environment) :
    (environment.filter fun entry => Text.Lowercase.ofText entry.1 == originsName) = [] := by
  apply List.filter_eq_nil_iff.mpr
  intro entry membership
  simpa using unlisted entry membership

theorem document?_of_unlisted (unlisted : Unlisted environment) :
    ({} : Lookup).document? environment originsName = .ok none := by
  have none : ({} : Lookup).value? environment originsName = none := by
    rw [Lookup.value?, text?_eq (by decide), unlisted.filter_eq]
    rfl
  rw [Lookup.document?, none]
  rfl

theorem value?_cons {t : String} (unlisted : Unlisted environment) :
    ({} : Lookup).value? (("CORS_ORIGINS", t) :: environment) originsName = some (.text t) := by
  have listed : (Text.Lowercase.ofText "CORS_ORIGINS" == originsName) = true :=
    beq_iff_eq.mpr lower_variable
  rw [Lookup.value?, text?_eq (by decide), List.filter_cons, if_pos listed,
    unlisted.filter_eq]
  rfl

theorem document?_cons {t : String} (unlisted : Unlisted environment) :
    ({} : Lookup).document? (("CORS_ORIGINS", t) :: environment) originsName =
      match Json.read (CodePoint.ofText t) with
      | .ok .null => .ok none
      | .ok d => .ok (some d)
      | .error (.beyond .depth) => .error .nestedTooDeeply
      | .error _ => .error .unreadableOrigins := by
  rw [Lookup.document?, value?_cons unlisted]
  dsimp only
  cases Json.read (CodePoint.ofText t) with
  | error fault => rcases fault with _ | (_ | _) <;> rfl
  | ok d => cases d <;> rfl

/-! ### Origins given directly and by a variable -/

theorem read_unlisted (unlisted : Unlisted environment) :
    read environment [] =
      finish (Entries.collect (variableEntries {} environment))
        (.valid { : Configuration }.origins) := by
  rw [read_variables, document?_of_unlisted unlisted]
  rfl

/-- Origins given directly change nothing else. -/
theorem read_direct (unlisted : Unlisted environment)
    (taken : Origins.ofValue v = .ok (.valid origins)) :
    read environment [(originsName, v)] = (read environment []).map (withOrigins origins) := by
  have known : readOrigins (some v) none = .ok (.valid origins) := by
    simp only [readOrigins, taken]
  rw [read_given, document?_of_unlisted unlisted, read_unlisted unlisted, collect_append_listed,
    ← finish_valid]
  change (readOrigins (some v) none).bind _ = _
  rw [known]
  change finish _ _ = _
  unfold finish
  rw [ofEntries_append_listed]

/-- Origins given by a variable change nothing else. -/
theorem read_listed {t : String} (unlisted : Unlisted environment)
    (taken : Json.read (CodePoint.ofText t) =
      .ok (.list (origins.map fun item => .text (CodePoint.ofText item)))) :
    read (("CORS_ORIGINS", t) :: environment) [] =
      (read environment []).map (withOrigins origins) := by
  have document : ({} : Lookup).document? (("CORS_ORIGINS", t) :: environment) originsName =
      .ok (some (.list (origins.map fun item => .text (CodePoint.ofText item)))) := by
    rw [document?_cons unlisted, taken]
  have known : readOrigins none
      (some (.list (origins.map fun item => .text (CodePoint.ofText item)))) =
        .ok (.valid origins) := by
    simp only [readOrigins, Origins.ofDocument_texts]
  rw [read_variables, read_unlisted unlisted, variableEntries_cons, ← finish_valid, document]
  simp only [Except.bind, known]

/-- A variable that is no JSON text, and not for its depth, makes the origins unreadable. -/
theorem read_unreadable {t : String} (unlisted : Unlisted environment)
    (malformed : ∀ d, Json.read (CodePoint.ofText t) ≠ .ok d)
    (shallow : Json.read (CodePoint.ofText t) ≠ .error (.beyond .depth)) :
    read (("CORS_ORIGINS", t) :: environment) [] = .error .unreadableOrigins := by
  have document : ({} : Lookup).document? (("CORS_ORIGINS", t) :: environment) originsName =
      .error .unreadableOrigins := by
    rw [document?_cons unlisted]
    split
    next outcome => exact absurd outcome (malformed _)
    next outcome => exact absurd outcome (malformed _)
    next outcome => exact absurd outcome shallow
    next => rfl
  rw [read_variables, document]
  rfl

theorem ofDocument_of_readOrigins {d : Document}
    (known : readOrigins none (some d) = .ok (.valid origins)) :
    Origins.ofDocument d = .ok (.valid origins) := by
  unfold readOrigins at known
  dsimp only at known
  split at known
  next outcome => rw [outcome, Except.ok.inj known]
  next => cases known
  next => cases known

theorem taken_of_read {t : String} (unlisted : Unlisted environment)
    (accepted : read (("CORS_ORIGINS", t) :: environment) [] = .ok c) :
    ∃ d, Json.read (CodePoint.ofText t) = .ok d ∧
      (d = .null ∧ c.origins = { : Configuration }.origins ∨
        Origins.ofDocument d = .ok (.valid c.origins)) := by
  rw [read_variables] at accepted
  obtain ⟨listed, document, later⟩ := bind_eq_ok_iff.mp accepted
  obtain ⟨taken, known, finished⟩ := bind_eq_ok_iff.mp later
  obtain rfl := eq_valid_of_finish finished
  rw [document?_cons unlisted] at document
  split at document
  next outcome =>
    cases document
    exact ⟨.null, outcome, .inl ⟨rfl, (Validated.valid.inj (Except.ok.inj known)).symm⟩⟩
  next d _ outcome =>
    cases document
    exact ⟨d, outcome, .inr (ofDocument_of_readOrigins known)⟩
  next => cases document
  next => cases document

theorem ofDocument_ne_valid {d : Document}
    (other : Json.isAtom d = true ∨ ∃ entries, d = .record entries) :
    Origins.ofDocument d ≠ .ok (.valid origins) := by
  intro taken
  rcases other with atom | ⟨entries, rfl⟩
  · cases d with
    | text => cases atom
    | list => cases atom
    | record => cases atom
    | _ => cases taken
  · cases taken

variable {text : String} {items : List String}

/-- A variable that lists items by commas never stands for these items. -/
theorem origins_ne_of_read (unlisted : Unlisted environment) (lists : Origins.Lists text items)
    (noQuote : Origins.firstChar? items ≠ some '"')
    (noBracket : Origins.firstChar? items ≠ some '[')
    (accepted : read (("CORS_ORIGINS", text) :: environment) [] = .ok c) : c.origins ≠ items := by
  obtain ⟨d, outcome, taken⟩ := taken_of_read unlisted accepted
  rcases lists.of_read noQuote noBracket outcome with ⟨-, record⟩ | ⟨atom, item, rfl, -⟩
  · rcases taken with ⟨rfl, -⟩ | taken
    · obtain ⟨entries, same⟩ := record
      cases same
    · exact absurd taken (ofDocument_ne_valid (.inr record))
  · rcases taken with ⟨-, standard⟩ | taken
    · -- There are four standard origins, and only one item.
      rw [standard]
      intro same
      cases congrArg List.length same
    · exact absurd taken (ofDocument_ne_valid (.inl atom))

/-- A variable that lists items by commas is no JSON text, unless it starts like one or is one word
or number. -/
theorem unreadable_of_lists (unlisted : Unlisted environment) (lists : Origins.Lists text items)
    (noQuote : Origins.firstChar? items ≠ some '"')
    (noBracket : Origins.firstChar? items ≠ some '[')
    (noBrace : Origins.firstChar? items ≠ some '{')
    (unplain : ∀ item, items = [item] → ∃ c ∈ item.toList, Json.isPlain c = false) :
    read (("CORS_ORIGINS", text) :: environment) [] = .error .unreadableOrigins := by
  apply read_unreadable unlisted _ (lists.read_ne_depth noQuote noBracket noBrace)
  intro d outcome
  rcases lists.of_read noQuote noBracket outcome with ⟨brace, -⟩ | ⟨-, item, single, plain⟩
  · exact noBrace brace
  · obtain ⟨c, listed, other⟩ := unplain item single
    rw [plain c listed] at other
    cases other

/-- A list of origins that is given directly is read from its items with commas between them and
blanks around them, and from its JSON text; as a variable it is read from each of its JSON texts. A
variable with commas never gives these origins, unless it starts as a text in JSON does, and makes
the configuration fail unless it can also be a record or is one word or number. -/
theorem origins_read_apart (unlisted : Unlisted environment) (lists : Origins.Lists text items)
    (noBracket : Origins.firstChar? items ≠ some '[') :
    read environment [(originsName, .text text)] = (read environment []).map (withOrigins items) ∧
    read environment [(originsName, .text (Json.listText items))] =
      (read environment []).map (withOrigins items) ∧
    Json.read (CodePoint.ofText (Json.listText items)) =
      .ok (.list (items.map fun item => .text (CodePoint.ofText item))) ∧
    (∀ json, Json.read (CodePoint.ofText json) =
        .ok (.list (items.map fun item => .text (CodePoint.ofText item))) →
      read (("CORS_ORIGINS", json) :: environment) [] =
        (read environment []).map (withOrigins items)) ∧
    (Origins.firstChar? items ≠ some '"' →
      (∀ c, read (("CORS_ORIGINS", text) :: environment) [] = .ok c → c.origins ≠ items) ∧
      (Origins.firstChar? items ≠ some '{' →
        (∀ item, items = [item] → ∃ c ∈ item.toList, Json.isPlain c = false) →
        read (("CORS_ORIGINS", text) :: environment) [] = .error .unreadableOrigins)) := by
  refine ⟨?commas, ?direct, Json.read_listText items, ?json, ?set⟩
  case commas =>
    apply read_direct unlisted
    rw [Origins.ofValue, Origins.ofText_of_lists lists noBracket]
    rfl
  case direct =>
    apply read_direct unlisted
    rw [Origins.ofValue, Origins.ofText_listText lists.proper]
    rfl
  case json =>
    intro json same
    exact read_listed unlisted same
  case set =>
    intro noQuote
    constructor
    · intro c accepted
      exact origins_ne_of_read unlisted lists noQuote noBracket accepted
    · intro noBrace unplain
      exact unreadable_of_lists unlisted lists noQuote noBracket noBrace unplain

theorem origins_read_apart_campus :
    let items := ["http://localhost:3000", "https://campus.example"]
    let text := "http://localhost:3000, https://campus.example"
    let environment := [("API_PREFIX", "/v1")]
    (Unlisted environment ∧ Origins.Lists text items ∧ Origins.firstChar? items ≠ some '[') ∧
      read environment [(originsName, .text text)] =
        .ok { apiPrefix := "/v1", origins := items } ∧
      read (("CORS_ORIGINS", text) :: environment) [] = .error .unreadableOrigins := by
  intro items text environment
  have unlisted : Unlisted environment := by
    intro entry membership
    obtain rfl := List.mem_singleton.mp membership
    decide +kernel
  have proper : ∀ item ∈ items, Origins.IsItem item := by decide +kernel
  have lists : Origins.Lists text items := by
    refine ⟨proper,
      ["http://localhost:3000".toList, ' ' :: "https://campus.example".toList], ?_, ?_⟩
    · decide +kernel
    · exact .cons (Origins.padded_self _)
        (.cons ⟨[' '], [], by simp, List.forall_mem_singleton.mpr (by decide), by simp⟩ .nil)
  have noBracket : Origins.firstChar? items ≠ some '[' := by decide +kernel
  obtain ⟨commas, -, -, -, set⟩ := origins_read_apart unlisted lists noBracket
  have plain : read environment [] = .ok { apiPrefix := "/v1" } := by
    rw [read_unlisted unlisted, variableEntries_eq]
    decide +kernel
  rw [plain] at commas
  refine ⟨⟨unlisted, lists, noBracket⟩, commas, ?_⟩
  refine (set (by decide +kernel)).2 (by decide +kernel) ?_
  intro item single
  cases congrArg List.length single

/-- Two origins that are read from one text with a comma, and from the JSON text of their list,
while the variable with this one text is refused. -/
theorem variable_not_split :
    let items := ["http://localhost:3000", "https://campus.example"]
    let text := "http://localhost:3000,https://campus.example"
    Origins.Lists text items ∧ Origins.firstChar? items ≠ some '[' ∧
      read [] [(originsName, .text text)] = .ok { origins := items } ∧
      read [("CORS_ORIGINS", Json.listText items)] [] = .ok { origins := items } ∧
      read [("CORS_ORIGINS", text)] [] = .error .unreadableOrigins := by
  intro items text
  have proper : ∀ item ∈ items, Origins.IsItem item := by decide +kernel
  have lists : Origins.Lists text items := by
    refine ⟨proper, ["http://localhost:3000".toList, "https://campus.example".toList], ?_, ?_⟩
    · decide +kernel
    · exact .cons (Origins.padded_self _) (.cons (Origins.padded_self _) .nil)
  have unlisted : Unlisted [] := by simp [Unlisted]
  have standard : read [] [] = .ok {} := by decide +kernel
  have listing : Origins.ofText (CodePoint.ofText text) = .ok items := by decide +kernel
  have direct : read [] [(originsName, .text text)] = (read [] []).map (withOrigins items) := by
    apply read_direct unlisted
    rw [Origins.ofValue, listing]
    rfl
  rw [direct, read_listed unlisted (Json.read_listText items), standard]
  refine ⟨lists, by decide +kernel, rfl, rfl, ?_⟩
  apply unreadable_of_lists unlisted lists (by decide +kernel) (by decide +kernel)
    (by decide +kernel)
  intro item single
  cases congrArg List.length single

end Configuration

end Timetabling

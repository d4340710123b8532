import StubServer.Proofs.Config.RoundTrip
import StubServer.Proofs.Config.Spellings

namespace StubServer

open Document (Node Fault Yields)
open Http Matching
open Json (Value)

def fieldsAt (fields : List (String × Value)) (key : String) : List (String × Value) :=
  fields.filter (·.1 = key)

section Fields

variable {fields : List (String × Value)} {key : String} {v : Value}

theorem fieldsAt_cons_self : fieldsAt ((key, v) :: fields) key = (key, v) :: fieldsAt fields key := by
  simp [fieldsAt]

theorem fieldsAt_cons_of_ne {other : String} (h : other ≠ key) :
    fieldsAt ((other, v) :: fields) key = fieldsAt fields key := by
  simp [fieldsAt, h]

theorem mem_fieldsAt : (key, v) ∈ fieldsAt fields key ↔ (key, v) ∈ fields := by
  simp [fieldsAt]

theorem eq_of_filter_eq {α : Type} {p : α → Bool} {items : List α} {a b : α} (h : items.filter p = [b])
    (ha : a ∈ items) (hp : p a) : a = b :=
  List.mem_singleton.mp (h ▸ List.mem_filter.mpr ⟨ha, hp⟩)

theorem readText_ofValue {s : String} : (Node.ofValue v).readText = .ok s ↔ v = .string s := by
  cases v with
  | number n => cases n <;> simp [Node.ofValue, Node.readText, Node.wrongType]
  | null | bool b | string s | array items | object fields =>
    simp [Node.ofValue, Node.readText, Node.wrongType]

theorem readBool_ofValue {b : Bool} : (Node.ofValue v).readBool = .ok b ↔ v = .bool b := by
  cases v with
  | number n => cases n <;> simp [Node.ofValue, Node.readBool, Node.wrongType]
  | null | bool b | string s | array items | object fields =>
    simp [Node.ofValue, Node.readBool, Node.wrongType]

end Fields

namespace Matching.StringMatcher

theorem readOperand_ofValue {name : String} {v : Value} {m : StringMatcher} :
    readOperand name (.ofValue v) = .ok m ↔ (name, v) = (m.operator, m.operand) := by
  constructor
  · intro h
    unfold readOperand at h
    split at h
    case h_6 =>
      obtain ⟨b, hb, rfl⟩ := map_eq_ok.mp h
      rw [readBool_ofValue.mp hb]
      rfl
    case h_7 => cases h
    all_goals
      obtain ⟨s, hs, rfl⟩ := map_eq_ok.mp h
      rw [readText_ofValue.mp hs]
      rfl
  · intro h
    obtain ⟨rfl, rfl⟩ := Prod.mk.inj h
    cases m <;> rfl

theorem readEntries_ofFields {fields : List (String × Value)} {m : StringMatcher} :
    readEntries true (Node.ofFields fields) = .ok m ↔ fields = [(m.operator, m.operand)] := by
  cases fields with
  | nil => exact iff_of_false nofun nofun
  | cons field rest =>
    obtain ⟨key, v⟩ := field
    rw [List.cons_eq_cons, ← readOperand_ofValue]
    cases rest with
    | nil =>
      rw [and_iff_left rfl, ← bind_pure (readOperand key (.ofValue v))]
      rfl
    | cons second rest =>
      refine iff_of_false (fun h => ?_) fun h => nomatch h.2
      obtain ⟨_, -, h⟩ := bind_eq_ok.mp h
      obtain ⟨_, -, h⟩ := bind_eq_ok.mp h
      obtain ⟨_, -, h⟩ := bind_eq_ok.mp h
      cases h

theorem operator_mem (m : StringMatcher) : m.operator ∈ operators := by
  cases m <;> simp [operator, operators]

theorem operator_ne_value (m : StringMatcher) : m.operator ≠ "value" := by
  cases m <;> simp [operator]

end Matching.StringMatcher

theorem ok_of_toOption {ε α : Type} {x : Except ε α} {a : α} (h : x.toOption = some a) : x = .ok a := by
  cases x with
  | error e => cases h
  | ok b => exact congrArg Except.ok (Option.some.inj h)

def foundAt (key : String) (found : Option String) : List (String × Value) :=
  found.toList.map fun s => (key, .string s)

theorem found_eq_singleton {key : String} {found : Option String} {v : Value}
    {rest : List (String × Value)}
    {s : String} : foundAt key found ++ (key, v) :: rest = [(key, .string s)] ↔
      found = none ∧ ∃ t, v = .string t ∧ foundAt key (some t) ++ rest = [(key, .string s)] := by
  cases found <;> simp [foundAt]

namespace HeaderDefinition

variable {fields : List (String × Value)} {d : HeaderDefinition} {name? value? : Option String}
  {entries : List (Node × Node)} {v : Value}

theorem readExact_name : readExact name? value? ((.text "name", .ofValue v) :: entries) = some d ↔
    name? = none ∧ ∃ s, v = .string s ∧ readExact (some s) value? entries = some d := by
  cases v with
  | string s => cases name? <;> simp [Node.ofValue, readExact, fieldName]
  | number n => cases n <;> simp [Node.ofValue, readExact, fieldName]
  | null | bool b | array items | object fields => simp [Node.ofValue, readExact, fieldName]

theorem readExact_value : readExact name? value? ((.text "value", .ofValue v) :: entries) = some d ↔
    value? = none ∧ ∃ s, v = .string s ∧ readExact name? (some s) entries = some d := by
  cases v with
  | string s => cases value? <;> simp [Node.ofValue, readExact, fieldName]
  | number n => cases n <;> simp [Node.ofValue, readExact, fieldName]
  | null | bool b | array items | object fields => simp [Node.ofValue, readExact, fieldName]

theorem readExact_other {key : String} (hname : key ≠ "name") (hvalue : key ≠ "value") :
    readExact name? value? ((.text key, .ofValue v) :: entries) = readExact name? value? entries := by
  have hkey : fieldName (.text key) = some none := by
    rw [fieldName]
    · exact hname
    · exact hvalue
  rw [readExact, hkey]
  rfl

theorem readExact_ofFields : readExact name? value? (Node.ofFields fields) = some d ↔
    ∃ name value, d = .exact name value ∧
      foundAt "name" name? ++ fieldsAt fields "name" = [("name", .string name)] ∧
      foundAt "value" value? ++ fieldsAt fields "value" = [("value", .string value)] := by
  induction fields generalizing name? value? with
  | nil =>
    cases name? <;> cases value? <;> simp [Node.ofFields, readExact, foundAt, fieldsAt, eq_comm]
  | cons field rest ih =>
    obtain ⟨key, v⟩ := field
    rw [Node.ofFields]
    by_cases hname : key = "name"
    · subst hname
      rw [readExact_name, fieldsAt_cons_self, fieldsAt_cons_of_ne (by decide)]
      simp only [ih, found_eq_singleton]
      constructor
      · rintro ⟨hnone, s, hs, name, value, hd, hnames, hvalues⟩
        exact ⟨name, value, hd, ⟨hnone, s, hs, hnames⟩, hvalues⟩
      · rintro ⟨name, value, hd, ⟨hnone, s, hs, hnames⟩, hvalues⟩
        exact ⟨hnone, s, hs, name, value, hd, hnames, hvalues⟩
    · by_cases hvalue : key = "value"
      · subst hvalue
        rw [readExact_value, fieldsAt_cons_self, fieldsAt_cons_of_ne (by decide)]
        simp only [ih, found_eq_singleton]
        constructor
        · rintro ⟨hnone, s, hs, name, value, hd, hnames, hvalues⟩
          exact ⟨name, value, hd, hnames, hnone, s, hs, hvalues⟩
        · rintro ⟨name, value, hd, hnames, hnone, s, hs, hvalues⟩
          exact ⟨hnone, s, hs, name, value, hd, hnames, hvalues⟩
      · rw [readExact_other hname hvalue, fieldsAt_cons_of_ne hname, fieldsAt_cons_of_ne hvalue, ih]

theorem splitName_name {before : List (Node × Node)} {found : String × List (Node × Node)} :
    splitName name? before ((.text "name", .ofValue v) :: entries) = some found ↔
      name? = none ∧ ∃ s, v = .string s ∧ splitName (some s) before entries = some found := by
  cases v with
  | string s => cases name? <;> simp [Node.ofValue, splitName]
  | number n => cases n <;> simp [Node.ofValue, splitName]
  | null | bool b | array items | object fields => simp [Node.ofValue, splitName]

theorem splitName_other {before : List (Node × Node)} {key : String} (hname : key ≠ "name") :
    splitName name? before ((.text key, .ofValue v) :: entries) =
      splitName name? ((.text key, .ofValue v) :: before) entries := by
  have hkey (node : Node) : ((Node.text key, Node.ofValue v) : Node × Node) ≠ (.text "name", node) :=
    fun h => hname (Node.text.inj (Prod.mk.inj h).1)
  rw [splitName]
  · exact fun s => hkey (.text s)
  · exact hkey

theorem splitName_ofFields {before others : List (Node × Node)} {name : String} :
    splitName name? before (Node.ofFields fields) = some (name, others) ↔
      foundAt "name" name? ++ fieldsAt fields "name" = [("name", .string name)] ∧
      others = before.reverse ++ Node.ofFields (fields.filter (·.1 ≠ "name")) := by
  induction fields generalizing name? before with
  | nil => cases name? <;> simp [Node.ofFields, splitName, foundAt, fieldsAt, eq_comm]
  | cons field rest ih =>
    obtain ⟨key, v⟩ := field
    rw [Node.ofFields]
    by_cases hname : key = "name"
    · subst hname
      rw [splitName_name, fieldsAt_cons_self, found_eq_singleton, List.filter_cons_of_neg (by simp)]
      simp only [ih]
      constructor
      · rintro ⟨hnone, s, hs, hnames, hothers⟩
        exact ⟨⟨hnone, s, hs, hnames⟩, hothers⟩
      · rintro ⟨⟨hnone, s, hs, hnames⟩, hothers⟩
        exact ⟨hnone, s, hs, hnames, hothers⟩
    · rw [splitName_other hname, ih, fieldsAt_cons_of_ne hname,
        List.filter_cons_of_pos (by simpa using hname),
        Node.ofFields, List.reverse_cons, List.append_assoc, List.singleton_append]

theorem readExact_iff : readExact none none (Node.ofFields fields) = some d ↔
    ∃ name value, d = .exact name value ∧
    fieldsAt fields "name" = [("name", .string name)] ∧
      fieldsAt fields "value" = [("value", .string value)] :=
  readExact_ofFields

theorem readMatching_iff : readMatching (Node.ofFields fields) = some d ↔
    ∃ name m, d = .matching name m ∧ fieldsAt fields "name" = [("name", .string name)] ∧
    fields.filter (·.1 ≠ "name") = [(m.operator, m.operand)] := by
  constructor
  · intro h
    obtain ⟨⟨name, others⟩, hsplit, h⟩ := Option.bind_eq_some_iff.mp h
    obtain ⟨m, hm, h⟩ := Option.bind_eq_some_iff.mp h
    cases h
    obtain ⟨hname, rfl⟩ := splitName_ofFields.mp hsplit
    exact ⟨name, m, rfl, hname, StringMatcher.readEntries_ofFields.mp (ok_of_toOption hm)⟩
  · rintro ⟨name, m, rfl, hname, hothers⟩
    have hsplit : splitName none [] (Node.ofFields fields) =
      some (name, Node.ofFields [(m.operator, m.operand)]) :=
      splitName_ofFields.mpr ⟨hname, by rw [hothers]; rfl⟩
    refine Option.bind_eq_some_iff.mpr ⟨_, hsplit, Option.bind_eq_some_iff.mpr ⟨m, ?_, rfl⟩⟩
    rw [StringMatcher.readEntries_ofFields.mpr rfl]
    rfl

theorem not_mem_of_comparison {m : StringMatcher}
    (hothers : fields.filter (·.1 ≠ "name") = [(m.operator, m.operand)])
      (v : Value) : ("value", v) ∉ fields := by
  intro hv
  have hkey : "value" = m.operator := congrArg Prod.fst (eq_of_filter_eq hothers hv (by simp))
  exact m.operator_ne_value hkey.symm

/-- How an entry is written that is read as this definition. -/
inductive IsWrittenIn (fields : List (String × Value)) : HeaderDefinition → Prop
  | exact (name value : String) (hname : fieldsAt fields "name" = [("name", .string name)])
      (hvalue : fieldsAt fields "value" = [("value", .string value)]) :
        IsWrittenIn fields (.exact name value)
  | matching (name : String) (m : StringMatcher) (hname : fieldsAt fields "name" =
      [("name", .string name)])
      (hothers : fields.filter (·.1 ≠ "name") = [(m.operator, m.operand)]) :
      IsWrittenIn fields (.matching name m)

theorem yields_iff_found : Yields read (.object fields) d ↔
    (readExact none none (Node.ofFields fields) <|> readMatching (Node.ofFields fields)) = some d := by
  refine ⟨fun h => ?_, yields_of_entries⟩
  rw [Yields, read, Node.resolved_ofValue, Node.ofValue] at h
  simp only [bind, Except.bind] at h
  split at h
  · next hfound =>
    cases h
    exact hfound
  · cases h

theorem isWrittenIn_of_yields (h : Yields read (.object fields) d) : d.IsWrittenIn fields := by
  rw [yields_iff_found] at h
  cases hexact : readExact none none (Node.ofFields fields) with
  | some found =>
    rw [hexact] at h
    obtain rfl := Option.some.inj h
    obtain ⟨name, value, rfl, hname, hvalue⟩ := readExact_iff.mp hexact
    exact .exact name value hname hvalue
  | none =>
    rw [hexact] at h
    obtain ⟨name, m, rfl, hname, hothers⟩ := readMatching_iff.mp h
    exact .matching name m hname hothers

theorem yields_of_isWrittenIn (h : d.IsWrittenIn fields) : Yields read (.object fields) d := by
  rw [yields_iff_found]
  cases h with
  | exact name value hname hvalue =>
    rw [readExact_iff.mpr ⟨name, value, rfl, hname, hvalue⟩]
    rfl
  | matching name m hname hothers =>
    cases hexact : readExact none none (Node.ofFields fields) with
    | some found =>
      -- There is no value among the fields, since the one that is not the name is an operator.
      obtain ⟨-, value, -, -, hvalue⟩ := readExact_iff.mp hexact
      have hmem : ("value", .string value) ∈ fields :=
        mem_fieldsAt.mp (hvalue ▸ List.mem_singleton_self _)
      exact absurd hmem (not_mem_of_comparison hothers _)
    | none => exact readMatching_iff.mpr ⟨name, m, rfl, hname, hothers⟩

theorem yields_iff : Yields read (.object fields) d ↔ d.IsWrittenIn fields :=
  ⟨isWrittenIn_of_yields, yields_of_isWrittenIn⟩

def name : HeaderDefinition → String
  | .exact name _ | .matching name _ => name

def criterion : HeaderDefinition → String × Value
  | .exact _ value => ("value", .string value)
  | .matching _ m => (m.operator, m.operand)

def criterionKeys : List String := "value" :: StringMatcher.operators

def written (fields : List (String × Value)) : List (String × Value) :=
  fields.filter (·.1 ∈ criterionKeys)

theorem mem_written {field : String × Value} :
    field ∈ written fields ↔ field ∈ fields ∧ field.1 ∈ criterionKeys := by
  rw [written, List.mem_filter, decide_eq_true_iff]

/-- The entry has a field for a value, and one for a comparison. -/
def WritesBoth (fields : List (String × Value)) : Prop :=
  (∃ v, ("value", v) ∈ fields) ∧ ∃ key ∈ StringMatcher.operators, ∃ v, (key, v) ∈ fields

/-- What a criterion asks of the header with this name: that it has the value, or that the
comparison holds of one of its texts, or of a missing one if it has none. -/
inductive Asks (caseSensitive : Bool) (header : String) (headers : Headers) : String × Value → Prop
  | value (value : String) (h : ∃ v ∈ headers.getAll header, visibleText? v = some value) :
      Asks caseSensitive header headers ("value", .string value)
  | comparison (m : StringMatcher) (test : StringTest) (htest : m.compile? caseSensitive = some test)
      (h : (∃ v ∈ headers.getAll header, ∃ text, visibleText? v = some text ∧ test.accepts (some text)) ∨
        (∀ v ∈ headers.getAll header, visibleText? v = none) ∧ test.accepts none) :
      Asks caseSensitive header headers (m.operator, m.operand)

section Asks

variable {caseSensitive : Bool} {header value : String} {headers : Headers} {m : StringMatcher}

theorem asks_value_iff : Asks caseSensitive header headers ("value", .string value) ↔
    (headerIs header value).Passes headers := by
  rw [passes_headerIs]
  refine ⟨fun h => ?_, .value value⟩
  generalize hfield : ("value", Value.string value) = field at h
  cases h with
  | value _ h =>
    cases hfield
    exact h
  | comparison m => exact absurd (congrArg Prod.fst hfield).symm m.operator_ne_value

theorem asks_comparison_iff : Asks caseSensitive header headers (m.operator, m.operand) ↔
    ∃ test, m.compile? caseSensitive = some test ∧ (headerPasses header test).Passes headers := by
  simp only [passes_headerPasses]
  refine ⟨fun h => ?_, fun ⟨test, htest, h⟩ => .comparison m test htest h⟩
  generalize hfield : (m.operator, m.operand) = field at h
  cases h with
  | value => exact absurd (congrArg Prod.fst hfield) m.operator_ne_value
  | comparison m' test htest h =>
    obtain rfl : m = m' := Except.ok.inj ((StringMatcher.readOperand_ofValue.mpr rfl).symm.trans
      (StringMatcher.readOperand_ofValue.mpr hfield))
    exact ⟨test, htest, h⟩

end Asks

theorem criterion_mem_written (h : d.IsWrittenIn fields) : d.criterion ∈ written fields := by
  cases h with
  | exact name value hname hvalue =>
    have hmem : ("value", .string value) ∈ fields := mem_fieldsAt.mp (hvalue ▸ List.mem_singleton_self _)
    exact mem_written.mpr ⟨hmem, List.mem_cons_self⟩
  | matching name m hname hothers =>
    have hmem : (m.operator, m.operand) ∈ fields.filter (·.1 ≠ "name") :=
      hothers ▸ List.mem_singleton_self _
    exact mem_written.mpr ⟨(List.mem_filter.mp hmem).1, List.mem_cons_of_mem _ m.operator_mem⟩

theorem written_of_comparison {m : StringMatcher}
    (hothers : fields.filter (·.1 ≠ "name") = [(m.operator, m.operand)]) :
    written fields = [(m.operator, m.operand)] := by
  rw [← hothers]
  refine List.filter_congr fun field hfield =>
    decide_eq_decide.mpr ⟨fun hkey hname => ?_, fun hkey => ?_⟩
  · simp [hname, criterionKeys, StringMatcher.operators] at hkey
  · rw [eq_of_filter_eq hothers hfield (decide_eq_true hkey)]
    exact List.mem_cons_of_mem _ m.operator_mem

theorem written_eq_iff (h : d.IsWrittenIn fields) : written fields = [d.criterion] ↔
    ¬WritesBoth fields := by
  have hmem := criterion_mem_written h
  cases h with
  | exact name value hname hvalue =>
    constructor
    · rintro hwritten ⟨-, key, hkey, v, hv⟩
      have hboth : (key, v) ∈ written fields := mem_written.mpr ⟨hv, List.mem_cons_of_mem _ hkey⟩
      rw [hwritten, List.mem_singleton] at hboth
      cases hboth
      simp [StringMatcher.operators] at hkey
    · intro hnot
      rw [criterion, ← hvalue]
      refine List.filter_congr fun field hfield => decide_eq_decide.mpr ?_
      rw [criterionKeys, List.mem_cons, or_iff_left]
      exact fun hkey => hnot ⟨⟨_, (mem_written.mp hmem).1⟩, field.1, hkey, field.2, hfield⟩
  | matching name m hname hothers =>
    exact iff_of_true (written_of_comparison hothers) fun hboth =>
      not_mem_of_comparison hothers _ hboth.1.choose_spec

theorem passes_iff_asks {caseSensitive : Bool} {c : Criterion String}
    (h : RequestDefinition.headerCriterion caseSensitive d = .ok c) :
    ∃ header m, headerNamed? d.name = some header ∧
      c = .header m ∧ ∀ headers, m.Passes headers ↔ Asks caseSensitive header headers d.criterion := by
  rw [headerCriterion_eq] at h
  obtain ⟨m, hm, rfl⟩ := map_eq_ok.mp h
  have hgives : Gives (· = m) (d.matcher caseSensitive) := ⟨m, hm, rfl⟩
  cases d with
  | exact name value =>
    obtain ⟨header, hheader, rfl⟩ := gives_exact.mp hgives
    exact ⟨header, _, hheader, rfl, fun headers => asks_value_iff.symm⟩
  | matching name m =>
    obtain ⟨header, hheader, test, htest, rfl⟩ := gives_matching.mp hgives
    refine ⟨header, _, hheader, rfl, fun headers => ?_⟩
    rw [criterion, asks_comparison_iff, htest]
    simp

/-- What becomes of an entry that is read as this definition: it asks for one of the criteria that
are written, and for all of them unless there are a value and a comparison. -/
structure Takes (fields : List (String × Value)) (d : HeaderDefinition) : Prop where
  mem_written : d.criterion ∈ written fields
  asks : ∀ caseSensitive (c : Criterion String),
    RequestDefinition.headerCriterion caseSensitive d = .ok c →
    ∃ header m, headerNamed? d.name = some header ∧ c = .header m ∧
      (∀ headers, m.Passes headers ↔ Asks caseSensitive header headers d.criterion) ∧
      (¬WritesBoth fields → ∀ headers, m.Passes headers ↔
        ∀ field ∈ written fields, Asks caseSensitive header headers field)

theorem takes_of_isWrittenIn (h : d.IsWrittenIn fields) : d.Takes fields := by
  refine ⟨criterion_mem_written h, fun caseSensitive c hc => ?_⟩
  obtain ⟨header, m, hheader, hm, hpasses⟩ := passes_iff_asks hc
  refine ⟨header, m, hheader, hm, hpasses, fun hnot headers => ?_⟩
  rw [(written_eq_iff h).mpr hnot, List.forall_mem_singleton]
  exact hpasses headers

/-- An entry that writes more than one criterion is rejected, unless it has one name and one value:
then it is taken for them, and the others are not asked for. -/
theorem header_entry_criteria (fields : List (String × Value)) :
    (∀ d, Yields read (.object fields) d → d.Takes fields) ∧
    (1 < (written fields).length → ∀ d, Yields read (.object fields) d ↔
      ∃ name value, d = .exact name value ∧ fieldsAt fields "name" = [("name", .string name)] ∧
        fieldsAt fields "value" = [("value", .string value)]) := by
  refine ⟨fun d h => takes_of_isWrittenIn (yields_iff.mp h), fun hmore d => ?_⟩
  rw [yields_iff]
  constructor
  · intro h
    cases h with
    | exact name value hname hvalue => exact ⟨name, value, rfl, hname, hvalue⟩
    | matching name m hname hothers =>
      rw [written_of_comparison hothers] at hmore
      exact absurd hmore (lt_irrefl 1)
  · rintro ⟨name, value, rfl, hname, hvalue⟩
    exact .exact name value hname hvalue

theorem header_entry_criteria_contains :
    let fields := [("name", Value.string "X-Key"), ("contains", .string "a")]
    Yields read (.object fields) (.matching "X-Key" (.contains "a")) ∧
      Takes fields (.matching "X-Key" (.contains "a")) :=
  ⟨rfl, (header_entry_criteria _).1 _ rfl⟩

def contradictory : List (String × Value) :=
  [("name", .string "x-key"), ("value", .string "a"), ("exists", .bool false)]

/-- It is read, and nobody asks that the header is missing. -/
theorem absence_dropped : Yields read (.object contradictory) (.exact "x-key" "a") ∧
    ("exists", .bool false) ∈ written contradictory ∧
    ∃ m, RequestDefinition.headerCriterion true (.exact "x-key" "a") = .ok (.header m) ∧
      m.Passes (.ofList [("x-key", [97])]) ∧
      ¬Asks true "x-key" (.ofList [("x-key", [97])]) ("exists", .bool false) := by
  refine ⟨rfl, mem_written.mpr ⟨by simp [contradictory], by decide⟩, _, rfl, rfl, fun h => ?_⟩
  obtain ⟨test, htest, hpasses⟩ := (asks_comparison_iff (m := .present false)).mp h
  cases htest
  have hnone := passes_absent_iff.mp hpasses [97] (by decide)
  cases hnone

end HeaderDefinition

end StubServer

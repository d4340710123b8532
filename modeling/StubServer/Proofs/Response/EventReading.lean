import StubServer.Proofs.Response.EventFraming

namespace StubServer.Response

namespace Event

open EventStream (Block fieldOf values)

variable {e : Event}

theorem of_validate (h : e.validate = .ok ()) : (∀ text ∈ e.event, hasLineEnd text = false) ∧
    ∀ text ∈ e.id, hasLineEnd text = false ∧ '\x00' ∉ text.toList := by
  have hany : e.event.any hasLineEnd = false ∧ e.id.any hasLineEnd = false ∧
      (e.id.any fun id => decide ('\x00' ∈ id.toList)) = false := by
    cases hevent : e.event.any hasLineEnd <;> cases hid : e.id.any hasLineEnd <;>
      cases hnul : e.id.any fun id => decide ('\x00' ∈ id.toList) <;>
      simp [validate, hevent, hid, hnul, bind, Except.bind, throw, throwThe, MonadExceptOf.throw] at h ⊢
  obtain ⟨hevent, hid, hnul⟩ := hany
  rw [Option.any_eq_false] at hevent hid hnul
  refine ⟨fun text ht => ?_, fun text ht => ⟨?_, ?_⟩⟩
  · simpa using hevent text ht
  · simpa using hid text ht
  · simpa using hnul text ht

theorem not_mem_of_hasLineEnd {text : String} (h : hasLineEnd text = false) :
    '\r' ∉ text.toList ∧ '\n' ∉ text.toList := by
  simp only [hasLineEnd, List.any_eq_false, Bool.or_eq_true, decide_eq_true_eq] at h
  exact ⟨fun hr => h '\r' hr (.inl rfl), fun hn => h '\n' hn (.inr rfl)⟩

theorem isDigit_toString {n : Nat} {c : Char} (hc : c ∈ (toString n).toList) : c.isDigit := by
  rw [Nat.toString_eq_ofList_toDigits, String.toList_ofList] at hc
  exact Nat.isDigit_of_mem_toDigits (by decide) (by decide) hc

theorem not_mem_toString (n : Nat) : '\r' ∉ (toString n).toList ∧ '\n' ∉ (toString n).toList := by
  exact ⟨fun hr => absurd (isDigit_toString hr) (by decide),
    fun hn => absurd (isDigit_toString hn) (by decide)⟩

theorem not_breaks {text : String} (h : '\r' ∉ text.toList) : ¬Breaks text.toList := by
  rintro ⟨before, after, he, -⟩
  exact h (by simp [he])

theorem readTexts_eq_singleton {text : String} (h : '\r' ∉ text.toList ∧ '\n' ∉ text.toList) :
    readTexts text = [text.toList] := by
  rw [readTexts, lines_eq_splitOn, List.splitOn_eq_singleton h.2, List.map_singleton,
    dropReturn_eq_self h.1, dropReturn_eq_self h.1]

/-- No carriage return stands inside a line of the data or of the comment. -/
def Unbroken (e : Event) : Prop := ∀ text, text ∈ e.data ∨ text ∈ e.comment → ¬Breaks text.toList

theorem not_breaks_of_mem_fields (h : e.validate = .ok ()) (hu : e.Unbroken) {f : String × String}
    (hf : f ∈ e.fields) : ¬Breaks f.2.toList := by
  obtain ⟨hevent, hid⟩ := of_validate h
  revert f
  rw [forall_mem_fields]
  refine ⟨fun text ht => hu text (.inl ht), fun text ht => ?_, fun text ht => ?_, fun n _ => ?_,
    fun text ht => hu text (.inr ht)⟩
  · exact not_breaks (not_mem_of_hasLineEnd (hevent text ht)).1
  · exact not_breaks (not_mem_of_hasLineEnd (hid text ht).1).1
  · exact not_breaks (not_mem_toString n).1

theorem readTexts_ne_nil (text : String) : readTexts text ≠ [] := by
  simp [readTexts, lines_eq_splitOn]

theorem isNumber_toString (n : Nat) : EventStream.isNumber (toString n).toList := by
  have hne : (toString n).toList ≠ [] := by
    rw [Nat.toString_eq_ofList_toDigits, String.toList_ofList]
    exact Nat.toDigits_ne_nil
  rw [EventStream.isNumber, Bool.and_eq_true, List.all_eq_true]
  exact ⟨by simp, fun c hc => isDigit_toString hc⟩

theorem ofDigitChars_toString (n : Nat) : Nat.ofDigitChars 10 (toString n).toList 0 = n := by
  rw [Nat.toString_eq_ofList_toDigits, String.toList_ofList, Nat.ofDigitChars_ten_toDigits]

def readRows (e : Event) : List (List Char) := e.fields.flatMap fun f => fieldOf f.1 (readTexts f.2)

theorem lines_encode_of_unbroken (h : e.validate = .ok ()) (hu : e.Unbroken) (rest : List Char) :
    EventStream.lines (e.encode.toList ++ rest) = e.readRows ++ [] :: EventStream.lines rest := by
  have hpieces : ∀ f ∈ e.fields, piecesOf f = fieldOf f.1 (readTexts f.2) := fun f hf =>
    piecesOf_eq (name_of_mem_fields hf).2.2 (not_breaks_of_mem_fields h hu hf)
  rw [lines_encode_append, readRows, List.flatMap_def, List.map_congr_left hpieces, ← List.flatMap_def]

theorem nil_not_mem_readRows (e : Event) : [] ∉ e.readRows := by
  simp [readRows, fieldOf]

theorem values_flatMap (name : String) (fields : List (String × String))
    (hnames : ∀ f ∈ fields, ':' ∉ f.1.toList) :
    values name (fields.flatMap fun f => fieldOf f.1 (readTexts f.2)) =
      (fields.filter (·.1 = name)).flatMap fun f => readTexts f.2 := by
  induction fields with
  | nil => rfl
  | cons f fields ih =>
    have ih := ih fun g hg => hnames g (List.mem_cons_of_mem _ hg)
    rw [List.flatMap_cons, EventStream.values_append, ih,
      EventStream.values_fieldOf name (hnames f List.mem_cons_self), List.filter_cons]
    by_cases hf : f.1 = name <;> simp [hf]

theorem filter_field (name name' : String) (text? : Option String) :
    (field name text?).filter (·.1 = name') = if name = name' then field name text? else [] := by
  cases text? with
  | none => simp [field]
  | some text => by_cases h : name = name' <;> simp [field, h]

theorem values_readRows (e : Event) (name : String) :
    values name e.readRows = (e.fields.filter (·.1 = name)).flatMap fun f => readTexts f.2 :=
  values_flatMap name e.fields fun _ hf => (name_of_mem_fields hf).1

theorem flatMap_field (name : String) (text? : Option String) :
    (field name text?).flatMap (fun f => readTexts f.2) = (text?.map readTexts).getD [] := by
  cases text? <;> simp [field]

def block (e : Event) : Block where
  data := e.data.map fun text => String.ofList (['\n'].intercalate (readTexts text))
  event := e.event
  id := e.id
  retry := e.retry
  comments := ((e.comment.map readTexts).getD []).map String.ofList

theorem ofLines_readRows (h : e.validate = .ok ()) : Block.ofLines e.readRows = e.block := by
  obtain ⟨hevent, hid⟩ := of_validate h
  have hdata : values "data" e.readRows = (e.data.map readTexts).getD [] := by
    simp [values_readRows, fields, filter_field, flatMap_field]
  have hname : values "event" e.readRows = (e.event.map readTexts).getD [] := by
    simp [values_readRows, fields, filter_field, flatMap_field]
  have hident : values "id" e.readRows = (e.id.map readTexts).getD [] := by
    simp [values_readRows, fields, filter_field, flatMap_field]
  have hretry : values "retry" e.readRows = ((e.retry.map toString).map readTexts).getD [] := by
    simp [values_readRows, fields, filter_field, flatMap_field]
  have hcomment : values "" e.readRows = (e.comment.map readTexts).getD [] := by
    simp [values_readRows, fields, filter_field, flatMap_field]
  simp only [Block.ofLines, hdata, hname, hident, hretry, hcomment, block, Block.mk.injEq, and_true]
  refine ⟨?_, ?_, ?_, ?_⟩
  · cases hd : e.data with
    | none => rfl
    | some text =>
      rw [Option.map_some, Option.getD_some, Option.map_some]
      cases ht : readTexts text with
      | nil => exact absurd ht (readTexts_ne_nil text)
      | cons line more => rfl
  · cases he : e.event with
    | none => rfl
    | some text =>
      have hline := not_mem_of_hasLineEnd (hevent text he)
      simp [readTexts_eq_singleton hline]
  · cases hi : e.id with
    | none => rfl
    | some text =>
      obtain ⟨hline, hnul⟩ := hid text hi
      simp [readTexts_eq_singleton (not_mem_of_hasLineEnd hline), hnul]
  · cases hr : e.retry with
    | none => rfl
    | some n =>
      rw [Option.map_some, Option.map_some, Option.getD_some,
        readTexts_eq_singleton (not_mem_toString n), List.filter_cons_of_pos (isNumber_toString n)]
      exact congrArg some (ofDigitChars_toString n)

theorem read_encode_append (h : e.validate = .ok ()) (hu : e.Unbroken) (rest : String) :
    EventStream.read (e.encode ++ rest) = e.block :: EventStream.read rest := by
  rw [EventStream.read, String.toList_append, lines_encode_of_unbroken h hu,
    List.splitOn_append_cons_self_of_not_mem e.nil_not_mem_readRows,
    List.dropLast_cons_of_ne_nil (List.splitOn_ne_nil _ _), List.map_cons, ofLines_readRows h]
  rfl

theorem read_join (events : List Event) (h : ∀ e ∈ events, e.validate = .ok ())
    (hu : ∀ e ∈ events, e.Unbroken) :
    EventStream.read (String.join (events.map encode)) = events.map block := by
  induction events with
  | nil => rfl
  | cons e events ih =>
    have he := List.mem_cons_self (a := e) (l := events)
    have ih := ih (fun e he => h e (List.mem_cons_of_mem _ he)) fun e he =>
      hu e (List.mem_cons_of_mem _ he)
    rw [List.map_cons, String.join_cons, read_encode_append (h e he) (hu e he), ih, List.map_cons]

/-- Carriage returns stand only before line feeds. -/
def Paired (s : List Char) : Prop := ∀ before after, s = before ++ '\r' :: after →
    ∃ rest, after = '\n' :: rest

/-- The text with line ends of one character only. -/
def feedsOnly : List Char → List Char
  | [] => []
  | '\r' :: '\n' :: rest => '\n' :: feedsOnly rest
  | c :: rest => c :: feedsOnly rest

theorem not_breaks_of_paired {s : List Char} (h : Paired s) : ¬Breaks s := by
  rintro ⟨before, after, he, hend, -⟩
  obtain ⟨rest, rfl⟩ := h before after he
  exact hend (by simp [AtEnd])

theorem Paired.of_cons {c : Char} {s : List Char} (h : Paired (c :: s)) : Paired s :=
  fun before after he =>
  h (c :: before) after (by rw [he, List.cons_append])

theorem paired_cons {c : Char} {s : List Char} :
    Paired (c :: s) ↔ (c = '\r' → s.head? = some '\n') ∧ Paired s := by
  constructor
  · intro h
    refine ⟨?_, h.of_cons⟩
    rintro rfl
    obtain ⟨rest, rfl⟩ := h [] s rfl
    rfl
  · rintro ⟨hc, hs⟩ before after he
    cases before with
    | nil =>
      obtain ⟨rfl, rfl⟩ := List.cons.inj he
      exact List.head?_eq_some_iff.mp (hc rfl)
    | cons b before =>
      obtain ⟨-, rfl⟩ := List.cons.inj he
      exact hs before after rfl

instance Paired.decidable : (s : List Char) → Decidable (Paired s)
  | [] => .isTrue fun before after he => by simp at he
  | _ :: s => @decidable_of_iff' _ _ paired_cons (@instDecidableAnd _ _ _ (Paired.decidable s))

theorem lines_feedsOnly {s : List Char} (h : Paired s) :
    lines (feedsOnly s) = (lines s).map dropReturn := by
  fun_induction feedsOnly s with
  | case1 => rfl
  | case2 rest ih => simp [lines, dropReturn, ih h.of_cons.of_cons]
  | case3 c rest hnext ih =>
    have hr : c ≠ '\r' := by
      rintro rfl
      obtain ⟨more, rfl⟩ := h [] rest rfl
      exact hnext more rfl rfl
    have ih := ih h.of_cons
    by_cases hn : c = '\n'
    · simp [lines, hn, ih, dropReturn]
    · obtain ⟨line, more, hs, hcons⟩ := lines_cons rest hn
      rw [hcons, lines, if_neg hn, ih, hs, List.map_cons, List.map_cons, dropReturn_cons line (.inl hr)]

theorem return_not_mem_feedsOnly {s : List Char} (h : Paired s) : '\r' ∉ feedsOnly s := by
  fun_induction feedsOnly s with
  | case1 => exact List.not_mem_nil
  | case2 rest ih => simpa using ih h.of_cons.of_cons
  | case3 c rest hnext ih =>
    have hr : c ≠ '\r' := by
      rintro rfl
      obtain ⟨more, rfl⟩ := h [] rest rfl
      exact hnext more rfl rfl
    simpa [Ne.symm hr] using ih h.of_cons

theorem readTexts_of_paired {text : String} (h : Paired text.toList) :
    readTexts text = (feedsOnly text.toList).splitOn '\n' := by
  have hclean : ∀ line ∈ (feedsOnly text.toList).splitOn '\n', dropReturn line = line :=
    fun line hline =>
    dropReturn_eq_self fun hr =>
      return_not_mem_feedsOnly h ((not_mem_and_subset_of_mem_splitOn hline).2 hr)
  calc readTexts text
    _ = ((lines text.toList).map dropReturn).map dropReturn := by rw [readTexts, List.map_map]; rfl
    _ = ((feedsOnly text.toList).splitOn '\n').map dropReturn := by
      rw [← lines_feedsOnly h, lines_eq_splitOn]
    _ = (feedsOnly text.toList).splitOn '\n' := by rw [List.map_congr_left hclean, List.map_id']

/-- What was meant by the event, with line ends of one character. -/
def meaning (e : Event) : Block where
  data := e.data.map fun text => String.ofList (feedsOnly text.toList)
  event := e.event
  id := e.id
  retry := e.retry
  comments := match e.comment with
    | none => []
    | some text => ((feedsOnly text.toList).splitOn '\n').map String.ofList

theorem block_eq_meaning (h : ∀ text, text ∈ e.data ∨ text ∈ e.comment → Paired text.toList) :
    e.block = e.meaning := by
  rw [block, meaning, Block.mk.injEq]
  refine ⟨?_, rfl, rfl, rfl, ?_⟩
  · cases hd : e.data with
    | none => rfl
    | some text =>
      rw [Option.map_some, readTexts_of_paired (h text (.inl hd)), List.intercalate_splitOn,
        Option.map_some]
  · cases hc : e.comment with
    | none => rfl
    | some text => rw [Option.map_some, Option.getD_some, readTexts_of_paired (h text (.inr hc))]

/-- Valid events in whose texts carriage returns stand only before line feeds are read back one by
one. -/
theorem read_encodings (events : List Event) (hvalid : ∀ e ∈ events, e.validate = .ok ())
    (hpaired : ∀ e ∈ events, ∀ text, text ∈ e.data ∨ text ∈ e.comment → Paired text.toList) :
    EventStream.read (String.join (events.map encode)) = events.map meaning := by
  have hu : ∀ e ∈ events, e.Unbroken := fun e he text ht => not_breaks_of_paired (hpaired e he text ht)
  rw [read_join events hvalid hu, List.map_congr_left fun e he => block_eq_meaning (hpaired e he)]

theorem read_encodings_sample :
    EventStream.read (String.join ([⟨some "a\r\n\r\n:b", some "up", some "", some 10, some " c\r\n"⟩,
      ⟨some "", none, none, none, none⟩, blank].map encode)) =
    [⟨some "a\n\n:b", some "up", some "", some 10, [" c", ""]⟩, ⟨some "", none, none, none, []⟩,
      ⟨none, none, none, none, []⟩] := by
  refine (read_encodings _ ?_ ?_).trans rfl
  · simp only [List.forall_mem_cons]
    exact ⟨rfl, rfl, rfl, fun _ h => absurd h List.not_mem_nil⟩
  · simp only [List.forall_mem_cons]
    refine ⟨?_, ?_, ?_, fun _ h => absurd h List.not_mem_nil⟩
    · rintro text (ht | ht)
      · obtain rfl := Option.some.inj ht
        decide
      · obtain rfl := Option.some.inj ht
        decide
    · rintro text (ht | ht)
      · obtain rfl := Option.some.inj ht
        decide
      · exact nomatch ht
    · rintro text (ht | ht) <;> exact nomatch ht

def names (e : Event) : List String := e.fields.map (·.1)

/-- A reader finds no other fields in the event than those that are set, one line for each that was
written, and the end where it was written. -/
structure Framed (e : Event) : Prop where
  prefixed : ∀ line ∈ EventStream.lines e.encode.toList, line ≠ [] →
    ∃ name ∈ e.names, (name.toList ++ [':']) <+: line
  own : ∃ block, EventStream.read e.encode = [block] ∧ block.event = e.event ∧ block.id = e.id ∧
    block.retry = e.retry
  closed : ∃ written, EventStream.lines e.encode.toList = written ++ [[]] ∧ [] ∉ written
  whole : (EventStream.lines e.encode.toList).length = e.encode.toList.count '\n'

theorem lines_encode (e : Event) :
    EventStream.lines e.encode.toList = e.fields.flatMap piecesOf ++ [[]] := by
  have h := lines_encode_append e []
  rwa [List.append_nil] at h

theorem count_rows {rows : List (List Char)} (h : ∀ row ∈ rows, '\n' ∉ row) :
    (rows.flatMap (· ++ ['\n'])).count '\n' = rows.length := by
  induction rows with
  | nil => rfl
  | cons row rows ih =>
    have ih := ih fun r hr => h r (List.mem_cons_of_mem _ hr)
    have hrow := List.count_eq_zero.mpr (h row List.mem_cons_self)
    rw [List.flatMap_cons, List.count_append, List.count_append, ih, hrow, List.length_cons]
    simp [Nat.add_comm]

theorem count_encode (e : Event) :
    e.encode.toList.count '\n' = (e.fields.flatMap rowsOf).length + 1 := by
  rw [toList_encode, List.count_append, count_rows fun row hrow => newline_not_mem_rows hrow]
  rfl

theorem length_pieces (rows : List (List Char)) :
    (rows.flatMap fun row => (dropReturn row).splitOn '\r').length =
      rows.length + (rows.flatMap fun row => (dropReturn row).filter (· = '\r')).length := by
  induction rows with
  | nil => rfl
  | cons row rows ih =>
    have hrow : ((dropReturn row).splitOn '\r').length =
      ((dropReturn row).filter (· = '\r')).length + 1 := by
      rw [length_splitOn, List.count, List.countP_eq_length_filter]
      rfl
    simp only [List.flatMap_cons, List.length_append, ih, hrow, List.length_cons]
    omega

theorem breaks_of_mem_fields {f : String × String} (hf : f ∈ e.fields) :
    Breaks f.2.toList ↔ ∃ row ∈ rowsOf f, '\r' ∈ dropReturn row := by
  have hname := (name_of_mem_fields hf).2.2
  rw [breaks_iff]
  constructor
  · rintro ⟨line, hline, hr⟩
    refine ⟨_, List.mem_map_of_mem (List.mem_map_of_mem hline), ?_⟩
    rw [dropReturn_field]
    simp [hr]
  · rintro ⟨row, hrow, hr⟩
    obtain ⟨text, htext, rfl⟩ := List.mem_map.mp hrow
    obtain ⟨line, hline, rfl⟩ := List.mem_map.mp htext
    rw [dropReturn_field] at hr
    exact ⟨line, hline, by simpa [hname] using hr⟩

theorem not_breaks_of_whole
    (h : (EventStream.lines e.encode.toList).length = e.encode.toList.count '\n')
    {f : String × String} (hf : f ∈ e.fields) : ¬Breaks f.2.toList := by
  have hpieces : e.fields.flatMap piecesOf =
      (e.fields.flatMap rowsOf).flatMap fun row => (dropReturn row).splitOn '\r' :=
    List.flatMap_assoc.symm
  have hnone :
      (e.fields.flatMap rowsOf).flatMap (fun row => (dropReturn row).filter (· = '\r')) = [] := by
    rw [lines_encode, count_encode, List.length_append, hpieces, length_pieces,
      List.length_singleton] at h
    exact List.eq_nil_of_length_eq_zero (by omega)
  rw [breaks_of_mem_fields hf]
  rintro ⟨row, hrow, hr⟩
  have hfilter := List.flatMap_eq_nil_iff.mp hnone row (List.mem_flatMap_of_mem hf hrow)
  exact List.filter_eq_nil_iff.mp hfilter '\r' hr (decide_eq_true rfl)

theorem unbroken_of_whole
    (h : (EventStream.lines e.encode.toList).length = e.encode.toList.count '\n') : e.Unbroken := by
  have hfields := forall_mem_fields.mp fun f hf => not_breaks_of_whole h (f := f) hf
  obtain ⟨hdata, -, -, -, hcomment⟩ := hfields
  rintro text (ht | ht)
  · exact hdata text ht
  · exact hcomment text ht

theorem framed_of_unbroken (h : e.validate = .ok ()) (hu : e.Unbroken) : e.Framed := by
  have hlines : EventStream.lines e.encode.toList = e.readRows ++ [[]] := by
    have hread := lines_encode_of_unbroken h hu []
    rwa [List.append_nil] at hread
  refine ⟨fun line hline hne => ?prefixed, ?own, ⟨e.readRows, hlines, e.nil_not_mem_readRows⟩, ?whole⟩
  case prefixed =>
    have hrow : line ∈ e.readRows := by simpa [hlines, hne] using hline
    obtain ⟨f, hf, hrow⟩ := List.mem_flatMap.mp hrow
    obtain ⟨text, -, rfl⟩ := List.mem_map.mp hrow
    exact ⟨f.1, List.mem_map_of_mem hf, ' ' :: text, by simp⟩
  case own =>
    have hread := read_encode_append h hu ""
    rw [String.append_empty] at hread
    exact ⟨e.block, hread, rfl, rfl, rfl⟩
  case whole =>
    have hlength : ∀ fields : List (String × String),
        (fields.flatMap fun f => fieldOf f.1 (readTexts f.2)).length =
          (fields.flatMap rowsOf).length := by
      intro fields
      simp [List.length_flatMap, fieldOf, rowsOf, readTexts]
    rw [hlines, count_encode, List.length_append, readRows, hlength]
    rfl

/-- A valid event is read as nothing but what was written exactly if no carriage return stands inside a
line of its data or of its comment. -/
theorem framed_iff (h : e.validate = .ok ()) : e.Framed ↔ e.Unbroken :=
  ⟨fun hframed => unbroken_of_whole hframed.whole, framed_of_unbroken h⟩

theorem framed_iff_data : (⟨some "a\r\n\r\n:b", none, none, none, none⟩ : Event).Framed := by
  refine (framed_iff rfl).mpr fun text ht => not_breaks_of_paired ?_
  obtain ht | ht := ht
  · obtain rfl := Option.some.inj ht
    decide
  · exact nomatch ht

/-- A reader takes the rest of the data for the name of the event, or its empty line for the end. -/
theorem not_framed_of_return :
    let renamed : Event := ⟨some "x\revent: other", none, none, none, none⟩
    let ended : Event := ⟨some "x\r\ry", none, none, none, none⟩
    (renamed.validate = .ok () ∧ ¬renamed.Framed ∧
      EventStream.read renamed.encode = [⟨some "x", some "other", none, none, []⟩]) ∧
    ended.validate = .ok () ∧ ¬ended.Framed ∧
      EventStream.read ended.encode = [⟨some "x", none, none, none, []⟩,
        ⟨none, none, none, none, []⟩] := by
  intro renamed ended
  have hrenamed : EventStream.read renamed.encode = [⟨some "x", some "other", none, none, []⟩] := by
    decide +kernel
  have hended : EventStream.read ended.encode =
      [⟨some "x", none, none, none, []⟩, ⟨none, none, none, none, []⟩] := by
    decide +kernel
  refine ⟨⟨rfl, fun hframed => ?_, hrenamed⟩, rfl, fun hframed => ?_, hended⟩
  · obtain ⟨block, hread, hevent, -⟩ := hframed.own
    obtain rfl := List.singleton_inj.mp (hrenamed.symm.trans hread)
    exact nomatch hevent
  · obtain ⟨block, hread, -⟩ := hframed.own
    exact nomatch hended.symm.trans hread

end Event

end StubServer.Response

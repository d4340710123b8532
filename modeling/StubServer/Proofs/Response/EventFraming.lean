import StubServer.Proofs.Response.EventStream

namespace StubServer.Response

section

variable {α : Type} [BEq α] [LawfulBEq α] {a : α}

theorem not_mem_and_subset_of_mem_splitOn {l xs : List α} (h : xs ∈ l.splitOn a) : a ∉ xs ∧ xs ⊆ l := by
  induction l generalizing xs with
  | nil => simp_all
  | cons b l ih =>
    rw [List.splitOn_cons_eq_if_modifyHead] at h
    split at h
    · obtain rfl | h := List.mem_cons.mp h
      · exact ⟨List.not_mem_nil, List.nil_subset _⟩
      · exact (ih h).imp_right fun hsub => List.subset_cons_of_subset b hsub
    · rename_i hb
      cases hl : l.splitOn a with
      | nil => simp [hl] at h
      | cons first more =>
        rw [hl, List.modifyHead_cons, List.mem_cons] at h
        obtain rfl | h := h
        · obtain ⟨hfirst, hsub⟩ := ih (hl ▸ List.mem_cons_self)
          refine ⟨fun ha => ?_, List.cons_subset_cons b hsub⟩
          obtain rfl | ha := List.mem_cons.mp ha
          · exact hb BEq.rfl
          · exact hfirst ha
        · exact (ih (hl ▸ List.mem_cons_of_mem _ h)).imp_right fun hsub =>
            List.subset_cons_of_subset b hsub

theorem length_splitOn (l : List α) : (l.splitOn a).length = l.count a + 1 := by
  induction l with
  | nil => simp
  | cons b l ih =>
    rw [List.splitOn_cons_eq_if_modifyHead]
    by_cases hb : b = a
    · simp [hb, ih]
    · simp [hb, ih]

end

namespace Event

open EventStream (fieldOf)

theorem lines_eq_splitOn (s : List Char) : lines s = s.splitOn '\n' := by
  induction s with
  | nil => rfl
  | cons c s ih =>
    rw [lines, List.splitOn_cons_eq_if_modifyHead, ih]
    by_cases hc : c = '\n'
    · simp [hc]
    · have hne := List.splitOn_ne_nil '\n' s
      cases hs : s.splitOn '\n' with
      | nil => exact absurd hs hne
      | cons line more => simp [hc]

theorem dropReturn_cons {c : Char} (s : List Char) (h : c ≠ '\r' ∨ s ≠ []) :
    dropReturn (c :: s) = c :: dropReturn s := by
  cases s with
  | nil => simp_all [dropReturn]
  | cons d s => simp [dropReturn]

theorem dropReturn_sublist (s : List Char) : (dropReturn s).Sublist s := by
  induction s with
  | nil => exact .refl _
  | cons c s ih =>
    by_cases h : c ≠ '\r' ∨ s ≠ []
    · rw [dropReturn_cons s h]
      exact ih.cons_cons c
    · obtain ⟨rfl, rfl⟩ : c = '\r' ∧ s = [] := by simpa using h
      exact List.nil_sublist _

theorem dropReturn_eq_self {s : List Char} (h : '\r' ∉ s) : dropReturn s = s := by
  induction s with
  | nil => rfl
  | cons c s ih =>
    obtain ⟨hc, hs⟩ := not_or.mp (mt List.mem_cons.mpr h)
    rw [dropReturn_cons s (.inl (Ne.symm hc)), ih hs]

theorem dropReturn_field (name value : List Char) :
    dropReturn (name ++ ':' :: ' ' :: value) = name ++ ':' :: ' ' :: dropReturn value := by
  induction name with
  | nil =>
    rw [List.nil_append, dropReturn_cons _ (.inl (by decide)), dropReturn_cons _ (.inl (by decide))]
    rfl
  | cons c name ih => rw [List.cons_append, dropReturn_cons _ (.inr (by simp)), ih, List.cons_append]

def field (name : String) (text? : Option String) : List (String × String) :=
  (text?.map (name, ·)).toList

def fields (e : Event) : List (String × String) :=
  field "data" e.data ++ field "event" e.event ++ field "id" e.id ++
    field "retry" (e.retry.map toString) ++ field "" e.comment

def rowsOf (f : String × String) : List (List Char) :=
  fieldOf f.1 ((lines f.2.toList).map dropReturn)

theorem optionalLines_eq (name : String) (text? : Option String) :
    optionalLines name text? = ((field name text?).flatMap rowsOf).flatMap (· ++ ['\n']) := by
  cases text? with
  | none => rfl
  | some text => simp [optionalLines, fieldLines, field, rowsOf, fieldOf, List.flatMap_map]

theorem toList_encode (e : Event) :
    e.encode.toList = (e.fields.flatMap rowsOf).flatMap (· ++ ['\n']) ++ ['\n'] := by
  simp only [encode, String.toList_ofList, optionalLines_eq, fields, List.flatMap_append]

theorem forall_mem_field {name : String} {text? : Option String} {P : String × String → Prop} :
    (∀ f ∈ field name text?, P f) ↔ ∀ text ∈ text?, P (name, text) := by
  cases text? <;> simp [field]

theorem forall_mem_fields {e : Event} {P : String × String → Prop} :
    (∀ f ∈ e.fields, P f) ↔ (∀ text ∈ e.data, P ("data", text)) ∧ (∀ text ∈ e.event, P ("event", text)) ∧
      (∀ text ∈ e.id, P ("id", text)) ∧ (∀ n ∈ e.retry, P ("retry", toString n)) ∧
        ∀ text ∈ e.comment, P ("", text) := by
  have hretry : (∀ text ∈ e.retry.map toString, P ("retry", text)) ↔
      ∀ n ∈ e.retry, P ("retry", toString n) := by
    cases e.retry <;> simp
  simp only [fields, List.forall_mem_append, forall_mem_field, hretry, and_assoc]

theorem name_of_mem_fields {e : Event} {f : String × String} (hf : f ∈ e.fields) :
    ':' ∉ f.1.toList ∧ '\n' ∉ f.1.toList ∧ '\r' ∉ f.1.toList := by
  have hnames : ∀ f ∈ e.fields, f.1 ∈ ["data", "event", "id", "retry", ""] := by
    rw [forall_mem_fields]
    simp
  have hall : ∀ name ∈ ["data", "event", "id", "retry", ""],
      ':' ∉ name.toList ∧ '\n' ∉ name.toList ∧ '\r' ∉ name.toList := by
    decide
  exact hall f.1 (hnames f hf)

theorem newline_not_mem_rows {e : Event} {row : List Char} (hrow : row ∈ e.fields.flatMap rowsOf) :
    '\n' ∉ row := by
  obtain ⟨f, hf, hrow⟩ := List.mem_flatMap.mp hrow
  obtain ⟨text, htext, rfl⟩ := List.mem_map.mp hrow
  obtain ⟨line, hline, rfl⟩ := List.mem_map.mp htext
  rw [lines_eq_splitOn] at hline
  have hname := (name_of_mem_fields hf).2.1
  have hdrop : '\n' ∉ dropReturn line := fun h =>
    (not_mem_and_subset_of_mem_splitOn hline).1 ((dropReturn_sublist line).subset h)
  simp [hname, hdrop]

/-- The lines of a text as a reader has them who sees no line end inside them. -/
def readTexts (text : String) : List (List Char) :=
  (lines text.toList).map fun line => dropReturn (dropReturn line)

def piecesOf (f : String × String) : List (List Char) :=
  (rowsOf f).flatMap fun row => (dropReturn row).splitOn '\r'

theorem lines_encode_append (e : Event) (rest : List Char) :
    EventStream.lines (e.encode.toList ++ rest) =
      e.fields.flatMap piecesOf ++ [] :: EventStream.lines rest := by
  have hrows := EventStream.lines_flatMap (e.fields.flatMap rowsOf) ('\n' :: rest)
    fun row hrow => newline_not_mem_rows hrow
  have hblank : EventStream.lines ('\n' :: rest) = [] :: EventStream.lines rest :=
    EventStream.lines_append [] rest List.not_mem_nil
  rw [toList_encode, List.append_assoc, List.singleton_append, hrows, hblank, List.flatMap_assoc]
  rfl

/-- The line is at its end. -/
def AtEnd (s : List Char) : Prop := ∀ c ∈ s.head?, c = '\n'

/-- A carriage return inside a line: it is not at its end, nor is there one more and then the end. -/
def Breaks (s : List Char) : Prop :=
  ∃ before after, s = before ++ '\r' :: after ∧ ¬AtEnd after ∧ ¬∃ rest, after = '\r' :: rest ∧ AtEnd rest

theorem breaks_cons (c : Char) (s : List Char) : Breaks (c :: s) ↔
    (c = '\r' ∧ ¬AtEnd s ∧ ¬∃ rest, s = '\r' :: rest ∧ AtEnd rest) ∨ Breaks s := by
  constructor
  · rintro ⟨before, after, he, hend⟩
    cases before with
    | nil =>
      obtain ⟨rfl, rfl⟩ := List.cons.inj he
      exact .inl ⟨rfl, hend⟩
    | cons b before =>
      obtain ⟨rfl, rfl⟩ := List.cons.inj he
      exact .inr ⟨before, after, rfl, hend⟩
  · rintro (⟨rfl, hend⟩ | ⟨before, after, rfl, hend⟩)
    · exact ⟨[], s, rfl, hend⟩
    · exact ⟨c :: before, after, rfl, hend⟩

theorem lines_cons {c : Char} (s : List Char) (hc : c ≠ '\n') :
    ∃ line more, lines s = line :: more ∧ lines (c :: s) = (c :: line) :: more := by
  cases hs : lines s with
  | nil => simp [lines_eq_splitOn] at hs
  | cons line more => exact ⟨line, more, rfl, by simp [lines, hc, hs]⟩

theorem atEnd_iff {s line : List Char} {more : List (List Char)} (h : lines s = line :: more) :
    AtEnd s ↔ line = [] := by
  cases s with
  | nil =>
    obtain ⟨rfl, -⟩ := List.cons.inj h
    simp [AtEnd]
  | cons c s =>
    by_cases hc : c = '\n'
    · subst hc
      obtain ⟨rfl, -⟩ := List.cons.inj h
      simp [AtEnd]
    · obtain ⟨line', more', -, hcons⟩ := lines_cons s hc
      obtain ⟨rfl, -⟩ := List.cons.inj (hcons.symm.trans h)
      simp [AtEnd, hc]

theorem return_atEnd_iff {s line : List Char} {more : List (List Char)} (h : lines s = line :: more) :
    (∃ rest, s = '\r' :: rest ∧ AtEnd rest) ↔ line = ['\r'] := by
  cases s with
  | nil =>
    obtain ⟨rfl, -⟩ := List.cons.inj h
    simp
  | cons c s =>
    by_cases hc : c = '\n'
    · subst hc
      obtain ⟨rfl, -⟩ := List.cons.inj h
      simp
    · obtain ⟨line', more', hs, hcons⟩ := lines_cons s hc
      obtain ⟨rfl, -⟩ := List.cons.inj (hcons.symm.trans h)
      simp [and_assoc, atEnd_iff hs]

theorem dropReturn_eq_nil {line : List Char} : dropReturn line = [] ↔ line = [] ∨ line = ['\r'] := by
  cases line with
  | nil => simp [dropReturn]
  | cons c line =>
    by_cases h : c ≠ '\r' ∨ line ≠ []
    · rw [dropReturn_cons line h]
      simp only [reduceCtorEq, List.cons.injEq, false_or, false_iff]
      rintro ⟨rfl, rfl⟩
      exact h.elim (· rfl) (· rfl)
    · obtain ⟨rfl, rfl⟩ : c = '\r' ∧ line = [] := by simpa using h
      simp [dropReturn]

theorem dropReturn_twice_cons {c : Char} (line : List Char) (hc : c ≠ '\r') :
    dropReturn (dropReturn (c :: line)) = c :: dropReturn (dropReturn line) := by
  rw [dropReturn_cons line (.inl hc), dropReturn_cons _ (.inl hc)]

theorem mem_dropReturn_twice_return {line : List Char} :
    '\r' ∈ dropReturn (dropReturn ('\r' :: line)) ↔ dropReturn line ≠ [] := by
  by_cases h : line = []
  · subst h
    simp [dropReturn]
  · rw [dropReturn_cons line (.inr h)]
    by_cases hd : dropReturn line = []
    · simp [hd, dropReturn]
    · rw [dropReturn_cons _ (.inr hd)]
      simp [hd]

/-- There is a carriage return inside a line exactly if one is left when two are taken away at the
ends of all lines. -/
theorem breaks_iff (s : List Char) : Breaks s ↔ ∃ line ∈ lines s,
    '\r' ∈ dropReturn (dropReturn line) := by
  -- A character is put at the beginning of the first line; the other lines stay as they are.
  induction s with
  | nil => simp [Breaks, lines, dropReturn]
  | cons c s ih =>
    rw [breaks_cons, ih]
    by_cases hc : c = '\n'
    · subst hc
      simp [lines, dropReturn]
    · obtain ⟨line, more, hs, hcons⟩ := lines_cons s hc
      simp only [hs, hcons, List.mem_cons, exists_eq_or_imp, atEnd_iff hs, return_atEnd_iff hs]
      by_cases hr : c = '\r'
      · subst hr
        have hleft : '\r' ∈ dropReturn (dropReturn line) → dropReturn line ≠ [] := by
          intro hmem he
          simp [he, dropReturn] at hmem
        rw [mem_dropReturn_twice_return]
        simp only [Ne, dropReturn_eq_nil, not_or, true_and] at hleft ⊢
        rw [← or_assoc, or_iff_left_of_imp hleft]
      · rw [dropReturn_twice_cons line hr, List.mem_cons]
        simp [hr, Ne.symm hr]

theorem piecesOf_eq {f : String × String} (hname : '\r' ∉ f.1.toList) (h : ¬Breaks f.2.toList) :
    piecesOf f = fieldOf f.1 (readTexts f.2) := by
  have hrow : ∀ line ∈ lines f.2.toList,
      (dropReturn (f.1.toList ++ ':' :: ' ' :: dropReturn line)).splitOn '\r' =
        [f.1.toList ++ ':' :: ' ' :: dropReturn (dropReturn line)] := by
    intro line hline
    have hclean : '\r' ∉ dropReturn (dropReturn line) := fun hr =>
      h ((breaks_iff _).mpr ⟨line, hline, hr⟩)
    rw [dropReturn_field, List.splitOn_eq_singleton]
    simp [hname, hclean]
  simp only [piecesOf, rowsOf, fieldOf, readTexts, List.flatMap_map, List.map_map, Function.comp_def]
  rw [List.flatMap_def, List.map_congr_left hrow, ← List.flatMap_def, ← List.map_eq_flatMap]

end Event

end StubServer.Response

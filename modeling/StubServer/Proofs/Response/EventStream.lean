import StubServer.Response.Event

namespace StubServer.Response

namespace EventStream

/-- The lines of a stream; the last one has not ended. -/
def splitLines : List Char → List (List Char)
  | [] => [[]]
  | '\r' :: '\n' :: rest => [] :: splitLines rest
  | c :: rest =>
    if c = '\r' ∨ c = '\n' then [] :: splitLines rest else (splitLines rest).modifyHead (c :: ·)

def lines (s : List Char) : List (List Char) := (splitLines s).dropLast

/-- The name of a field stands before the first colon; a comment has none. -/
def nameOf (line : List Char) : List Char := line.takeWhile (· ≠ ':')

/-- The value of a field stands behind the first colon, less one space. -/
def valueOf (line : List Char) : List Char :=
  match line.dropWhile (· ≠ ':') with
  | ':' :: ' ' :: value => value
  | ':' :: value => value
  | _ => []

def values (name : String) (lines : List (List Char)) : List (List Char) :=
  (lines.filter (nameOf · = name.toList)).map valueOf

def isNumber (value : List Char) : Bool := !value.isEmpty && value.all Char.isDigit

/-- What a reader has of an event. -/
structure Block where
  data : Option String
  event : Option String
  id : Option String
  retry : Option Nat
  comments : List String
  deriving DecidableEq, Repr

/-- Lines of data are joined; of other fields the last one counts. Ids with NUL and times that are no
numbers are passed over. -/
def Block.ofLines (lines : List (List Char)) : Block where
  data := match values "data" lines with
    | [] => none
    | texts => some (String.ofList (['\n'].intercalate texts))
  event := (values "event" lines).getLast?.map String.ofList
  id := ((values "id" lines).filter (!·.contains '\x00')).getLast?.map String.ofList
  retry := ((values "retry" lines).filter isNumber).getLast?.map (Nat.ofDigitChars 10 · 0)
  comments := (values "" lines).map String.ofList

def read (s : String) : List Block := ((lines s.toList).splitOn []).dropLast.map Block.ofLines

theorem splitLines_ne_nil (s : List Char) : splitLines s ≠ [] := by
  fun_induction splitLines s with
  | case1 | case2 | case3 => exact List.cons_ne_nil _ _
  | case4 c rest _ hc ih => simpa [List.modifyHead_eq_nil_iff] using ih

theorem splitLines_return {s : List Char} (h : s.head? ≠ some '\n') :
    splitLines ('\r' :: s) = [] :: splitLines s := by
  rw [splitLines]
  · simp
  · rintro rest - rfl
    exact h rfl

theorem splitLines_cons {c : Char} (s : List Char) (hr : c ≠ '\r') (hn : c ≠ '\n') :
    splitLines (c :: s) = (splitLines s).modifyHead (c :: ·) := by
  rw [splitLines]
  · simp [hr, hn]
  · rintro rest rfl
    exact absurd rfl hr

theorem modifyHead_append_of_ne_nil {α : Type} {f : α → α} {xs : List α} (ys : List α) (h : xs ≠ []) :
    (xs ++ ys).modifyHead f = xs.modifyHead f ++ ys := by
  cases xs with
  | nil => exact absurd rfl h
  | cons x xs => rfl

/-- What ends with a line feed is read as several lines if there are carriage returns in it, apart from
one just before the line feed. -/
theorem splitLines_append (line rest : List Char) (h : '\n' ∉ line) :
    splitLines (line ++ '\n' :: rest) = (Event.dropReturn line).splitOn '\r' ++ splitLines rest := by
  induction line with
  | nil => simp [splitLines, Event.dropReturn]
  | cons c line ih =>
    obtain ⟨hc, hline⟩ := not_or.mp (mt List.mem_cons.mpr h)
    have ih := ih hline
    by_cases hr : c = '\r'
    · subst hr
      cases line with
      -- Here the carriage return and the line feed are one line end.
      | nil => simp [splitLines, Event.dropReturn]
      | cons d line =>
        have hd : d ≠ '\n' := fun he => hline (he ▸ List.mem_cons_self)
        have hdrop : Event.dropReturn ('\r' :: d :: line) = '\r' :: Event.dropReturn (d :: line) := rfl
        rw [List.cons_append, splitLines_return (by simpa using hd), ih, hdrop,
          List.splitOn_cons_eq_if_modifyHead]
        rfl
    · have hdrop : Event.dropReturn (c :: line) = c :: Event.dropReturn line := by
        cases line <;> simp [Event.dropReturn, hr]
      have hne := List.splitOn_ne_nil '\r' (Event.dropReturn line)
      rw [List.cons_append, splitLines_cons _ hr (Ne.symm hc), ih, hdrop,
        List.splitOn_cons_eq_if_modifyHead, modifyHead_append_of_ne_nil _ hne]
      simp [hr]

theorem lines_append (line rest : List Char) (h : '\n' ∉ line) :
    lines (line ++ '\n' :: rest) = (Event.dropReturn line).splitOn '\r' ++ lines rest := by
  rw [lines, splitLines_append line rest h, List.dropLast_append_of_ne_nil (splitLines_ne_nil rest)]
  rfl

theorem lines_flatMap (rows : List (List Char)) (rest : List Char) (h : ∀ row ∈ rows, '\n' ∉ row) :
    lines (rows.flatMap (· ++ ['\n']) ++ rest) =
      rows.flatMap (fun row => (Event.dropReturn row).splitOn '\r') ++ lines rest := by
  induction rows with
  | nil => rfl
  | cons row rows ih =>
    have hrow := h row List.mem_cons_self
    have ih := ih fun r hr => h r (List.mem_cons_of_mem _ hr)
    simp only [List.flatMap_cons, List.append_assoc, List.cons_append, List.nil_append]
    rw [lines_append _ _ hrow, ih]

section

variable {name : String} (hname : ':' ∉ name.toList) (value : List Char)

include hname

theorem nameOf_field : nameOf (name.toList ++ ':' :: ' ' :: value) = name.toList := by
  rw [nameOf, List.takeWhile_append_of_pos]
  · simp
  · intro c hc
    simpa using fun he : c = ':' => hname (he ▸ hc)

theorem valueOf_field : valueOf (name.toList ++ ':' :: ' ' :: value) = value := by
  rw [valueOf, List.dropWhile_append_of_pos]
  · simp
  · intro c hc
    simpa using fun he : c = ':' => hname (he ▸ hc)

end

theorem values_append (name : String) (ls ls' : List (List Char)) :
    values name (ls ++ ls') = values name ls ++ values name ls' := by
  simp [values]

def fieldOf (name : String) (texts : List (List Char)) : List (List Char) :=
  texts.map (name.toList ++ ':' :: ' ' :: ·)

theorem values_fieldOf (name : String) {name' : String} (hname : ':' ∉ name'.toList)
    (texts : List (List Char)) :
    values name (fieldOf name' texts) = if name' = name then texts else [] := by
  induction texts with
  | nil => simp [values, fieldOf]
  | cons text texts ih =>
    simp only [values, fieldOf, List.map_cons, List.filter_cons, nameOf_field hname] at ih ⊢
    by_cases he : name' = name
    · subst he
      simp only [decide_true, if_true, List.map_cons, valueOf_field hname] at ih ⊢
      rw [ih]
    · have hne : name'.toList ≠ name.toList := fun h => he (String.toList_inj.mp h)
      simpa [he, hne] using ih

end EventStream

end StubServer.Response

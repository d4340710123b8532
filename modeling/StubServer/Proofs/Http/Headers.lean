import StubServer.Http.Headers

namespace StubServer.Http.Headers

variable {headers : Headers} {name other : String} {value : Bytes} {fields more : List (String × Bytes)}

def names (headers : Headers) : List String := headers.entries.map (·.1)

theorem contains_iff : headers.contains name ↔ name ∈ headers.names := by
  simp [contains, names]

theorem getAll_eq_nil (h : name ∉ headers.names) : headers.getAll name = [] := by
  have hlookup : headers.entries.lookup name = none := by
    rw [List.lookup_eq_none_iff]
    rintro ⟨n, values⟩ hentry
    exact bne_iff_ne.mpr fun hn => h (List.mem_map.mpr ⟨_, hentry, hn.symm⟩)
  rw [getAll, hlookup]
  rfl

theorem lookup_alter (f : List Bytes → List Bytes) (name other : String)
    (entries : List (String × List Bytes)) :
    (alter f name entries).lookup other =
      if other = name then some (f ((entries.lookup name).getD [])) else entries.lookup other := by
  induction entries with
  | nil =>
    rw [alter, List.lookup_cons]
    by_cases h : other = name
    · simp [h]
    · simp [h, beq_false_of_ne h]
  | cons entry rest ih =>
    obtain ⟨first, values⟩ := entry
    rw [alter]
    by_cases hfirst : first = name
    · subst hfirst
      rw [if_pos rfl, List.lookup_cons, List.lookup_cons, List.lookup_cons]
      by_cases h : other = first
      · simp [h]
      · simp [h, beq_false_of_ne h]
    · rw [if_neg hfirst, List.lookup_cons, ih, List.lookup_cons, List.lookup_cons,
        beq_false_of_ne (Ne.symm hfirst)]
      by_cases h : other = first
      · simp [h, hfirst]
      · simp [beq_false_of_ne h]

theorem keys_alter (f : List Bytes → List Bytes) (name : String) (entries : List (String × List Bytes)) :
    (alter f name entries).map (·.1) =
      entries.map (·.1) ++ if name ∈ entries.map (·.1) then [] else [name] := by
  induction entries with
  | nil => rfl
  | cons entry rest ih =>
    obtain ⟨first, values⟩ := entry
    rw [alter]
    by_cases hfirst : first = name
    · simp [hfirst]
    · rw [if_neg hfirst, List.map_cons, ih, List.map_cons, List.cons_append]
      simp only [List.mem_cons, Ne.symm hfirst, false_or]

theorem getAll_append : (headers.append name value).getAll other =
    headers.getAll other ++ if name = other then [value] else [] := by
  rw [getAll, append, lookup_alter]
  by_cases h : name = other
  · subst h
    rw [if_pos rfl, if_pos rfl]
    rfl
  · rw [if_neg (Ne.symm h), if_neg h, List.append_nil]
    rfl

theorem names_append :
    (headers.append name value).names = headers.names ++ if name ∈ headers.names then [] else [name] :=
  keys_alter _ name headers.entries

theorem getAll_complete : (headers.complete name value).getAll other =
    if name = other ∧ name ∉ headers.names then [value] else headers.getAll other := by
  rw [complete]
  by_cases hname : name ∈ headers.names
  · rw [if_pos (contains_iff.mpr hname), if_neg fun h => h.2 hname]
  · rw [if_neg (mt contains_iff.mp hname), getAll, insert, lookup_alter]
    by_cases h : name = other
    · subst h
      rw [if_pos rfl, if_pos ⟨rfl, hname⟩]
      rfl
    · rw [if_neg (Ne.symm h), if_neg fun h' => h h'.1]
      rfl

theorem names_complete :
    (headers.complete name value).names = headers.names ++ if name ∈ headers.names then []
      else [name] := by
  rw [complete]
  by_cases hname : name ∈ headers.names
  · rw [if_pos (contains_iff.mpr hname), if_pos hname, List.append_nil]
  · rw [if_neg (mt contains_iff.mp hname)]
    exact keys_alter _ name headers.entries

def appendAll (headers : Headers) (fields : List (String × Bytes)) : Headers :=
  fields.foldl (fun headers field => headers.append field.1 field.2) headers

def completeAll (headers : Headers) (fields : List (String × Bytes)) : Headers :=
  fields.foldl (fun headers field => headers.complete field.1 field.2) headers

/-- The values of the fields with this name, in order. -/
def valuesOf (name : String) (fields : List (String × Bytes)) : List Bytes :=
  (fields.filter (·.1 = name)).map (·.2)

/-- The names that are not among these, each where it appears first. -/
def newNames (names : List String) (fields : List (String × Bytes)) : List String :=
  ((fields.map (·.1)).filter (· ∉ names)).eraseDups

theorem newNames_nil (names : List String) : newNames names [] = [] := rfl

theorem newNames_cons (names : List String) : newNames names ((name, value) :: fields) =
    (if name ∈ names then [] else [name]) ++
      newNames (names ++ if name ∈ names then [] else [name]) fields := by
  rw [newNames, List.map_cons]
  by_cases hname : name ∈ names
  · rw [if_pos hname, List.append_nil, List.nil_append, List.filter_cons_of_neg (by simpa using hname)]
    rfl
  · have hfilter : ((fields.map (·.1)).filter (· ∉ names)).filter (fun n => !n == name) =
        (fields.map (·.1)).filter (· ∉ names ++ [name]) := by
      rw [List.filter_filter]
      apply List.filter_congr
      intro n _
      by_cases hn : n = name <;> simp [hn]
    rw [if_neg hname, List.filter_cons_of_pos (by simpa using hname), List.eraseDups_cons, hfilter]
    rfl

theorem newNames_append (names : List String) : newNames names (fields ++ more) =
    newNames names fields ++ newNames (names ++ newNames names fields) more := by
  induction fields generalizing names with
  | nil => rw [newNames_nil, List.append_nil, List.nil_append, List.nil_append]
  | cons field rest ih =>
    rw [List.cons_append, newNames_cons, newNames_cons, ih, List.append_assoc, List.append_assoc]

theorem getAll_appendAll : (headers.appendAll fields).getAll name = headers.getAll name ++
    valuesOf name fields := by
  induction fields generalizing headers with
  | nil => exact (List.append_nil _).symm
  | cons field rest ih =>
    rw [appendAll, List.foldl_cons, ← appendAll, ih, getAll_append, List.append_assoc]
    by_cases h : field.1 = name <;> simp [valuesOf, h]

theorem names_appendAll : (headers.appendAll fields).names = headers.names ++
    newNames headers.names fields := by
  induction fields generalizing headers with
  | nil => exact (List.append_nil _).symm
  | cons field rest ih =>
    rw [appendAll, List.foldl_cons, ← appendAll, ih, names_append, newNames_cons, List.append_assoc]

theorem getAll_completeAll : (headers.completeAll fields).getAll name =
    if name ∈ headers.names then headers.getAll name else (fields.lookup name).toList := by
  induction fields generalizing headers with
  | nil =>
    by_cases hname : name ∈ headers.names
    · rw [if_pos hname]
      rfl
    · rw [if_neg hname]
      exact getAll_eq_nil hname
  | cons field rest ih =>
    obtain ⟨first, value⟩ := field
    rw [completeAll, List.foldl_cons, ← completeAll, ih, names_complete, getAll_complete,
      List.lookup_cons]
    by_cases hname : name ∈ headers.names
    · rw [if_pos (List.mem_append_left _ hname), if_neg fun h => h.2 (h.1 ▸ hname), if_pos hname]
    · rw [if_neg hname]
      by_cases hfirst : first = name
      · subst hfirst
        simp [hname]
      · rw [beq_false_of_ne (Ne.symm hfirst), if_neg]
        rw [List.mem_append, not_or]
        refine ⟨hname, ?_⟩
        split
        · exact List.not_mem_nil
        · exact fun h => hfirst (List.mem_singleton.mp h).symm

theorem mem_names_appendAll :
    name ∈ (headers.appendAll fields).names ↔ name ∈ headers.names ∨ name ∈ fields.map (·.1) := by
  rw [names_appendAll, List.mem_append, newNames, List.mem_eraseDups, List.mem_filter,
    decide_eq_true_iff]
  by_cases h : name ∈ headers.names <;> simp [h]

theorem names_completeAll : (headers.completeAll fields).names = headers.names ++
    newNames headers.names fields := by
  induction fields generalizing headers with
  | nil => exact (List.append_nil _).symm
  | cons field rest ih =>
    rw [completeAll, List.foldl_cons, ← completeAll, ih, names_complete, newNames_cons,
      List.append_assoc]

theorem completeAll_append :
    headers.completeAll (fields ++ more) = (headers.completeAll fields).completeAll more :=
  List.foldl_append

end StubServer.Http.Headers

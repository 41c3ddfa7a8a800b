import StoreBridge.Proofs.TermReading

/-! Statements are read back from their text: which of the four it is, the table, the columns, the
assignments and the conditions, each in its order, with nothing left over. -/
namespace StoreBridge.Sql
open Text

section Sequences
variable {α : Type} {part : Reader α} {between : List Char → Option (List Char)}

/-- A part that is never empty, and that is read whether or not a blank stands in front of it. -/
structure IsPart (part : Reader α) : Prop where
  blank : ∀ cs, part (' ' :: cs) = part cs
  empty : part [] = none

theorem isPart_name : IsPart name? :=
  ⟨fun _ => rfl, rfl⟩

theorem isPart_term : IsPart term? :=
  ⟨fun _ => rfl, rfl⟩

theorem isPart_assignment : IsPart assignment? :=
  ⟨fun _ => rfl, rfl⟩

theorem isPart_condition : IsPart condition? :=
  ⟨fun _ => rfl, rfl⟩

theorem Reads.ne_nil {chars : List Char} {a : α} (reads : Reads part chars a)
    (shape : IsPart part) : chars ≠ [] := by
  rintro rfl
  have read := reads [] ends_nil
  rw [List.append_nil, shape.empty] at read
  cases read

/-- Parts with a separator between each two are read one after the other, when the separator ends a
part and is itself read up to a blank. -/
theorem sequence?_separated (shape : IsPart part) (write : α → List Char) (sep : List Char)
    (separates : ∀ rest, between (sep ++ rest) = some (' ' :: rest))
    (closes : ∀ rest, Ends (sep ++ rest)) {rest : List Char} (ends : Ends rest)
    (last : between rest = none) {parts : List α} (somePart : parts ≠ [])
    (reads : ∀ a ∈ parts, Reads part (write a) a) {most : Nat} (enough : parts.length ≤ most) :
    sequence? part between most (separated sep (parts.map write) ++ rest) = some (parts, rest) := by
  induction parts generalizing most with
  | nil => exact absurd rfl somePart
  | cons a parts ih =>
    obtain ⟨most, rfl⟩ : ∃ m, most = m + 1 := ⟨most - 1, by simp at enough; omega⟩
    have first := reads a (List.mem_cons_self ..)
    cases parts with
    | nil => simp [sequence?, separated, first rest ends, last]
    | cons b parts =>
      have others : sequence? part between most (separated sep ((b :: parts).map write) ++ rest) =
          some (b :: parts, rest) :=
        ih (List.cons_ne_nil _ _) (fun c among => reads c (List.mem_cons_of_mem _ among))
          (by simpa using enough)
      -- The part behind the separator is read as if the blank in front of it were not there.
      have skipped (cs : List Char) :
          sequence? part between most (' ' :: cs) = sequence? part between most cs := by
        cases most <;> simp [sequence?, shape.blank]
      have front := first (sep ++ (separated sep ((b :: parts).map write) ++ rest)) (closes _)
      simp only [List.map_cons, separated, List.append_assoc] at front others ⊢
      simp [sequence?, front, separates, skipped, others]

/-- There are no more parts than characters. -/
theorem length_le_separated (shape : IsPart part) (write : α → List Char) (sep : List Char)
    {parts : List α} (reads : ∀ a ∈ parts, Reads part (write a) a) :
    parts.length ≤ (separated sep (parts.map write)).length := by
  induction parts with
  | nil => exact Nat.le_refl _
  | cons a parts ih =>
    have filled := (reads a (List.mem_cons_self ..)).ne_nil shape
    have first := List.length_pos_iff.mpr filled
    have others := ih fun b among => reads b (List.mem_cons_of_mem _ among)
    cases parts with
    | nil => exact first
    | cons b parts =>
      simp only [separated, List.map_cons, List.length_cons, List.length_append] at others ⊢
      omega

/-- A list is read whether or not a blank stands in front of it. -/
theorem list?_listed (shape : IsPart part) (write : α → List Char) {rest : List Char}
    (ends : Ends rest) (last : mark? ',' rest = none) {parts : List α} (somePart : parts ≠ [])
    (reads : ∀ a ∈ parts, Reads part (write a) a) :
    list? part (listed (parts.map write) ++ rest) = some (parts, rest) ∧
      list? part (' ' :: (listed (parts.map write) ++ rest)) = some (parts, rest) := by
  have comma (rest : List Char) : mark? ',' ([',', ' '] ++ rest) = some (' ' :: rest) := rfl
  have closes (rest : List Char) : Ends ([',', ' '] ++ rest) := ends_cons (.inr (.inl rfl))
  have long : parts.length ≤ (listed (parts.map write) ++ rest).length := by
    rw [List.length_append]
    exact Nat.le_add_right_of_le (length_le_separated shape write _ reads)
  have read {most : Nat} (enough : parts.length ≤ most) :
      sequence? part (mark? ',') most (listed (parts.map write) ++ rest) = some (parts, rest) :=
    sequence?_separated shape write _ comma closes ends last somePart reads enough
  constructor
  · exact read long
  · have behind := read (Nat.le_succ_of_le long)
    show sequence? part (mark? ',') (_ + 1) (' ' :: _) = _
    rw [sequence?, shape.blank]
    exact behind

private theorem parenthesised?_list {text rest : List Char} {parts : List α}
    (read : list? part (text ++ ')' :: rest) = some (parts, ')' :: rest)) :
    parenthesised? (list? part) (" (".toList ++ (text ++ ')' :: rest)) = some (parts, rest) := by
  show (list? part (text ++ ')' :: rest)).bind _ = _
  rw [read]
  rfl

end Sequences

/-- A condition that has a text of its own. -/
def Condition.Readable : Condition → Prop
  | .isNull _ => True
  | .equals _ t => t.Readable

theorem reads_condition {c : Condition} (readable : c.Readable) : Reads condition? c.chars c := by
  intro rest ends
  cases c with
  | isNull column =>
    have named := reads_name column (" IS NULL".toList ++ rest) (ends_cons (.inl rfl))
    have asked : keywords? ["IS", "NULL"] (" IS NULL".toList ++ rest) = some rest := by
      show (keyword? "NULL" ("NULL".toList ++ rest)).bind _ = _
      rw [keyword?_front rfl rfl ends]
      rfl
    simp only [Condition.chars, List.append_assoc, condition?, named, asked, bind, Option.bind_some]
  | equals column t =>
    have named := reads_name column (" = ".toList ++ (t.chars ++ rest)) (ends_cons (.inl rfl))
    have asked : keywords? ["IS", "NULL"] (" = ".toList ++ (t.chars ++ rest)) = none := rfl
    have compared :
        mark? '=' (" = ".toList ++ (t.chars ++ rest)) = some (' ' :: (t.chars ++ rest)) := rfl
    have term : term? (' ' :: (t.chars ++ rest)) = some (t, rest) := reads_term readable rest ends
    simp only [Condition.chars, List.append_assoc, condition?, named, asked, compared, term, bind,
      Option.bind_some]
    rfl

/-- An assignment is read with its column. -/
theorem reads_assignment {a : String × Term} (readable : a.2.Readable) :
    Reads assignment? (assignmentChars a) a := by
  intro rest ends
  have named := reads_name a.1 (" = ".toList ++ (a.2.chars ++ rest)) (ends_cons (.inl rfl))
  have compared : mark? '=' (" = ".toList ++ (a.2.chars ++ rest)) =
      some (' ' :: (a.2.chars ++ rest)) := rfl
  have term : term? (' ' :: (a.2.chars ++ rest)) = some (a.2, rest) := reads_term readable rest ends
  simp only [assignmentChars, List.append_assoc, assignment?, named, compared, term, bind,
    Option.bind_some]
  rfl

section Clauses
variable {conditions : List Condition}

/-- The clause that holds the conditions is the end of a statement. -/
theorem ends_whereChars (conditions : List Condition) : Ends (whereChars conditions) := by
  unfold whereChars
  split
  · exact ends_nil
  · exact ends_cons (.inl rfl)

theorem mark?_whereChars (conditions : List Condition) :
    mark? ',' (whereChars conditions) = none := by
  unfold whereChars
  split <;> rfl

theorem conditions?_whereChars (readable : ∀ c ∈ conditions, c.Readable) :
    conditions? (whereChars conditions) = some (conditions, []) := by
  unfold whereChars
  split
  · rename_i none
    rw [List.isEmpty_iff] at none
    rw [none]
    rfl
  · rename_i someCondition
    rw [List.isEmpty_iff] at someCondition
    have reads : ∀ c ∈ conditions, Reads condition? c.chars c :=
      fun c among => reads_condition (readable c among)
    have long := length_le_separated isPart_condition Condition.chars " AND ".toList reads
    have separates (rest : List Char) :
        keyword? "AND" (" AND ".toList ++ rest) = some (' ' :: rest) := rfl
    have read := sequence?_separated isPart_condition Condition.chars " AND ".toList separates
      (fun _ => ends_cons (.inl rfl)) ends_nil rfl someCondition reads (Nat.le_succ_of_le long)
    rw [List.append_nil] at read
    exact read

theorem source?_chars (table : String) (readable : ∀ c ∈ conditions, c.Readable) :
    source? (" FROM ".toList ++ (nameChars table ++ whereChars conditions)) =
      some ((table, conditions), []) := by
  have keyword : keyword? "FROM" (" FROM ".toList ++ (nameChars table ++ whereChars conditions)) =
      some (' ' :: (nameChars table ++ whereChars conditions)) := rfl
  have named : name? (' ' :: (nameChars table ++ whereChars conditions)) =
      some (table, whereChars conditions) := reads_name table _ (ends_whereChars conditions)
  simp only [source?, keyword, named, conditions?_whereChars readable, bind, Option.bind_some]
  rfl

theorem select?_all (table : String) (readable : ∀ c ∈ conditions, c.Readable) :
    select? (' ' :: '*' :: (" FROM ".toList ++ (nameChars table ++ whereChars conditions))) =
      some (.select .all table conditions, []) := by
  have all (cs : List Char) : mark? '*' (' ' :: '*' :: cs) = some cs := rfl
  simp only [select?, all, source?_chars table readable, bind, Option.bind_some]
  rfl

theorem select?_columns {names : List String} (someName : names ≠ []) (table : String)
    (readable : ∀ c ∈ conditions, c.Readable) :
    select? (' ' :: (listed (names.map nameChars) ++
        (" FROM ".toList ++ (nameChars table ++ whereChars conditions)))) =
      some (.select (.columns names) table conditions, []) := by
  have blank : Ends (" FROM ".toList ++ (nameChars table ++ whereChars conditions)) :=
    ends_cons (.inl rfl)
  have columns := (list?_listed isPart_name nameChars blank rfl someName
    (fun name _ => reads_name name)).2
  have quoted (cs : List Char) :
      mark? '*' (' ' :: (listed (names.map nameChars) ++ cs)) = none := by
    match names, someName with
    | [_], _ => rfl
    | _ :: _ :: _, _ => rfl
  simp only [select?, quoted, columns, source?_chars table readable, bind, Option.bind_some]
  rfl

end Clauses

section Values
variable {assignments : List (String × Term)}

theorem ends_valuesChars (assignments : List (String × Term)) : Ends (valuesChars assignments) := by
  unfold valuesChars
  split <;> exact ends_cons (.inl rfl)

/-- Columns and terms are read in two lists. -/
theorem valuesChars_eq (someValue : assignments ≠ []) :
    valuesChars assignments =
      " (".toList ++ (listed ((assignments.map (·.1)).map nameChars) ++ ')' ::
        (" VALUES (".toList ++
          (listed ((assignments.map (·.2)).map Term.chars) ++ [')']))) := by
  have filled : assignments.isEmpty = false := by simpa using someValue
  simp only [valuesChars, filled, List.append_assoc, List.map_map]
  rfl

/-- The values of an insertion are read with their columns. -/
theorem insert?_chars (table : String) (readable : ∀ a ∈ assignments, a.2.Readable) :
    insert? (" INTO ".toList ++ (nameChars table ++ valuesChars assignments)) =
      some (.insert table assignments, []) := by
  have keyword : keyword? "INTO" (" INTO ".toList ++ (nameChars table ++ valuesChars assignments)) =
      some (' ' :: (nameChars table ++ valuesChars assignments)) := rfl
  have named : name? (' ' :: (nameChars table ++ valuesChars assignments)) =
      some (table, valuesChars assignments) := reads_name table _ (ends_valuesChars assignments)
  simp only [insert?, keyword, named, bind, Option.bind_some]
  by_cases none : assignments = []
  · rw [none]
    rfl
  · have closing (cs : List Char) : Ends (')' :: cs) := ends_cons (.inr (.inr rfl))
    have terms := (list?_listed isPart_term Term.chars (closing []) rfl
      (mt List.map_eq_nil_iff.mp none) (by
        intro t among
        obtain ⟨a, here, rfl⟩ := List.mem_map.mp among
        exact reads_term (readable a here))).1
    have columns (cs : List Char) :
        list? name? (listed ((assignments.map (·.1)).map nameChars) ++ ')' :: cs) =
          some (assignments.map (·.1), ')' :: cs) :=
      (list?_listed isPart_name nameChars (closing cs) rfl (mt List.map_eq_nil_iff.mp none)
        (fun name _ => reads_name name)).1
    have values (cs : List Char) : keyword? "VALUES" (" VALUES (".toList ++ cs) =
        some (" (".toList ++ cs) := rfl
    have default (cs : List Char) : keywords? ["DEFAULT", "VALUES"] (" (".toList ++ cs) =
        Option.none := rfl
    have lengths : (assignments.map (·.1)).length = (assignments.map (·.2)).length := by simp
    have pairs : (assignments.map (·.1)).zip (assignments.map (·.2)) = assignments :=
      (List.zip_of_prod rfl rfl).symm
    rw [valuesChars_eq none]
    simp only [default, parenthesised?_list (columns _), values, parenthesised?_list terms,
      Option.bind_some, lengths, if_true, pairs]

end Values

/-- Assignments and conditions are what is left of an update behind its table. -/
theorem update?_chars (table : String) {assignments : List (String × Term)}
    {conditions : List Condition} (someAssignment : assignments ≠ [])
    (assigned : ∀ a ∈ assignments, a.2.Readable) (readable : ∀ c ∈ conditions, c.Readable) :
    update? (' ' :: (nameChars table ++ (" SET ".toList ++
        (listed (assignments.map assignmentChars) ++ whereChars conditions)))) =
      some (.update table assignments conditions, []) := by
  have list := (list?_listed isPart_assignment assignmentChars (ends_whereChars conditions)
    (mark?_whereChars conditions) someAssignment
    (fun a among => reads_assignment (assigned a among))).2
  generalize listed (assignments.map assignmentChars) ++ whereChars conditions = tail at list ⊢
  have named : name? (' ' :: (nameChars table ++ (" SET ".toList ++ tail))) =
      some (table, " SET ".toList ++ tail) := reads_name table _ (ends_cons (.inl rfl))
  have keyword : keyword? "SET" (" SET ".toList ++ tail) = some (' ' :: tail) := rfl
  simp only [update?, named, keyword, list, conditions?_whereChars readable, bind, Option.bind_some]
  rfl

/-- A statement that has a text of its own: lists of columns and assignments have members, and every
term has a text. -/
def Statement.Readable : Statement → Prop
  | .select selection _ conditions => selection ≠ .columns [] ∧ ∀ c ∈ conditions, c.Readable
  | .insert _ assignments => ∀ a ∈ assignments, a.2.Readable
  | .update _ assignments conditions =>
    assignments ≠ [] ∧ (∀ a ∈ assignments, a.2.Readable) ∧ ∀ c ∈ conditions, c.Readable
  | .delete _ conditions => ∀ c ∈ conditions, c.Readable

section Kinds
variable (cs : List Char)

private theorem keyword?_select : keyword? "SELECT" ("SELECT ".toList ++ cs) = some (' ' :: cs) :=
  rfl

private theorem keyword?_insert :
    keyword? "SELECT" ("INSERT INTO ".toList ++ cs) = none ∧
      keyword? "INSERT" ("INSERT INTO ".toList ++ cs) = some (" INTO ".toList ++ cs) := by
  have text : "INSERT INTO ".toList ++ cs = "INSERT".toList ++ (" INTO ".toList ++ cs) := rfl
  have ends : Ends (" INTO ".toList ++ cs) := ends_cons (.inl rfl)
  rw [text, keyword?_front rfl rfl ends, keyword?_front rfl rfl ends]
  exact ⟨rfl, rfl⟩

private theorem keyword?_update :
    keyword? "SELECT" ("UPDATE ".toList ++ cs) = none ∧
      keyword? "INSERT" ("UPDATE ".toList ++ cs) = none ∧
      keyword? "UPDATE" ("UPDATE ".toList ++ cs) = some (' ' :: cs) :=
  ⟨rfl, rfl, rfl⟩

private theorem keyword?_delete :
    keyword? "SELECT" ("DELETE FROM ".toList ++ cs) = none ∧
      keyword? "INSERT" ("DELETE FROM ".toList ++ cs) = none ∧
      keyword? "UPDATE" ("DELETE FROM ".toList ++ cs) = none ∧
      keyword? "DELETE" ("DELETE FROM ".toList ++ cs) = some (" FROM ".toList ++ cs) := by
  have text : "DELETE FROM ".toList ++ cs = "DELETE".toList ++ (" FROM ".toList ++ cs) := rfl
  have ends : Ends (" FROM ".toList ++ cs) := ends_cons (.inl rfl)
  have front {word : String} : keyword? word ("DELETE".toList ++ (" FROM ".toList ++ cs)) =
      if "DELETE".toList.map Char.toUpper = word.toList then some (" FROM ".toList ++ cs)
      else none :=
    keyword?_front rfl rfl ends
  rw [text, front, front, front, front]
  exact ⟨rfl, rfl, rfl, rfl⟩

end Kinds

/-- A statement is read back from its characters, to the end. -/
theorem statement?_chars {s : Statement} (readable : s.Readable) :
    statement? s.chars = some (s, []) := by
  cases s with
  | select selection table conditions =>
    obtain ⟨listable, conditionsReadable⟩ := readable
    show statement? ("SELECT ".toList ++ selection.chars ++ " FROM ".toList ++ nameChars table ++
      whereChars conditions) = _
    simp only [List.append_assoc, statement?, keyword?_select]
    cases selection with
    | all => exact select?_all table conditionsReadable
    | columns names =>
      have someName : names ≠ [] := fun none => listable (by rw [none])
      exact select?_columns someName table conditionsReadable
  | insert table assignments =>
    show statement? ("INSERT INTO ".toList ++ nameChars table ++ valuesChars assignments) = _
    simp only [List.append_assoc, statement?, keyword?_insert, insert?_chars table readable]
  | update table assignments conditions =>
    obtain ⟨someAssignment, assigned, conditionsReadable⟩ := readable
    show statement? ("UPDATE ".toList ++ nameChars table ++ " SET ".toList ++
      listed (assignments.map assignmentChars) ++ whereChars conditions) = _
    simp only [List.append_assoc, statement?, keyword?_update,
      update?_chars table someAssignment assigned conditionsReadable]
  | delete table conditions =>
    show statement? ("DELETE FROM ".toList ++ nameChars table ++ whereChars conditions) = _
    simp only [List.append_assoc, statement?, keyword?_delete, delete?,
      source?_chars table readable, bind, Option.bind_some]
    rfl

theorem statement?_text {s : Statement} (readable : s.Readable) :
    statement? s.text.toList = some (s, []) := by
  rw [Statement.text, String.toList_ofList]
  exact statement?_chars readable

end StoreBridge.Sql

import StoreBridge.Proofs.GeneratedStatement

/-! The text of a generated command. Whatever the names and the constants of a tree are made of, the
text is read back as the statement that the tree asks for, to the end: nothing that is quoted can
get out of its quotes. A routine is run by its own text, or called by its name, which is read back
from its quotes as well. -/
namespace StoreBridge
open Text Sql

namespace Generation

section Readability
variable {declared : List String} {style : ConstantStyle}

/-- A name of a parameter is made of the characters that placeholders may have. -/
theorem isName_wordChars {cs : List Char} (isName : Parameter.isName cs = true) :
    cs ≠ [] ∧ ∀ c ∈ cs, isWordChar c = true := by
  cases cs with
  | nil => cases isName
  | cons c cs =>
    simp only [Parameter.isName, Bool.and_eq_true, Bool.or_eq_true, List.all_eq_true] at isName
    obtain ⟨first, rest⟩ := isName
    refine ⟨List.cons_ne_nil _ _, fun d among => ?_⟩
    rcases List.mem_cons.mp among with rfl | among
    · rcases first with letter | underscore
      · simp [isWordChar, letter]
      · simp [isWordChar, underscore]
    · rcases rest d among with (letter | digit) | underscore
      · simp [isWordChar, letter]
      · simp [isWordChar, digit]
      · simp [isWordChar, underscore]

/-- What stands for an operand has a text. -/
theorem Spelled.readable {operand : Operand} {t : Term} {made : List Parameter}
    (spelled : Spelled declared style operand t made) : t.Readable := by
  cases spelled with
  | null => exact rfl
  | parameter _ _ isName => exact isName_wordChars isName
  | literal _ _ hasLiteral => exact hasLiteral
  | own => exact isName_wordChars (isName_ownName _)

/-- What holds of each counterpart alone holds of all of them. -/
theorem InTurn.forall_right {α β : Type} {stands : α → β → List Parameter → Prop} {p : β → Prop}
    (each : ∀ a b made, stands a b made → p b) {as : List α} {bs : List β} {made : List Parameter}
    (inTurn : InTurn stands as bs made) : ∀ b ∈ bs, p b := by
  induction inTurn with
  | nil => exact fun _ among => nomatch among
  | cons first rest ih =>
    intro b among
    rcases List.mem_cons.mp among with rfl | among
    · exact each _ _ _ first
    · exact ih b among

theorem Assigns.readable {clause : Clause} {a : String × Term} {made : List Parameter}
    (assigns : Assigns declared style clause a made) : a.2.Readable := by
  cases assigns with
  | mk spelled => exact spelled.readable

theorem Asks.readable {clause : Clause} {c : Condition} {made : List Parameter}
    (asks : Asks declared style clause c made) : c.Readable := by
  cases asks with
  | isNull => exact trivial
  | equals _ spelled => exact spelled.readable

theorem InTurn.ne_nil {α β : Type} {stands : α → β → List Parameter → Prop} {as : List α}
    {bs : List β} {made : List Parameter} (inTurn : InTurn stands as bs made) (someA : as ≠ []) :
    bs ≠ [] := by
  cases inTurn with
  | nil => exact absurd rfl someA
  | cons => exact List.cons_ne_nil _ _

/-- A statement that says what a body asks for has a text. -/
theorem Says.readable {form : DateTimeForm} {body : CommandBody} {s : Statement}
    {made : List Parameter} (said : Says form declared body s made) : s.Readable := by
  have assignable := fun (a : Clause) (b : String × Term) (made : List Parameter) =>
    @Assigns.readable declared .sent a b made
  have askable (style : ConstantStyle) :=
    fun (a : Clause) (b : Condition) (made : List Parameter) =>
      @Asks.readable declared style a b made
  cases said with
  | @query _ columns _ _ asks =>
    refine ⟨?_, asks.forall_right (askable _)⟩
    cases columns <;> simp [selected]
  | insert assigns => exact assigns.forall_right assignable
  | update assigning assigns asks =>
    exact ⟨assigns.ne_nil assigning, assigns.forall_right assignable, asks.forall_right (askable _)⟩
  | delete asks => exact asks.forall_right (askable _)

end Readability

/-- The name of a routine is read back from a text: the schema in front of a point, if there is one,
and the name, to the end. -/
def ReadsCall (r : Routine) (cs : List Char) : Prop :=
  match r.schema with
  | none => name? cs = some (r.name, [])
  | some schema => ∃ rest, name? cs = some (schema, '.' :: rest) ∧ name? rest = some (r.name, [])

theorem quoteIdentifier_ok {name quoted : String} (ended : quoteIdentifier name = .ok quoted) :
    quoted.toList = nameChars name := by
  obtain ⟨checked, identifier, ended⟩ := bind_eq_ok ended
  cases ended
  rw [(checkIdentifier_ok identifier).1, String.toList_ofList]

theorem routineName_reads {r : Routine} {text : String} (ended : routineName r = .ok text) :
    ReadsCall r text.toList := by
  obtain ⟨name, schema, ownText, parameters⟩ := r
  cases schema with
  | none =>
    obtain ⟨front, point, ended⟩ := bind_eq_ok ended
    obtain ⟨quoted, named, ended⟩ := bind_eq_ok ended
    cases point
    cases ended
    have read := name?_nameChars name (by simp : ([] : List Char).head? ≠ some '"')
    rw [List.append_nil] at read
    show name? ("" ++ quoted).toList = some (name, [])
    rw [String.empty_append, quoteIdentifier_ok named, read]
  | some schema =>
    obtain ⟨quotedSchema, inSchema, ended⟩ := bind_eq_ok ended
    obtain ⟨front, point, ended⟩ := bind_eq_ok ended
    obtain ⟨quoted, named, ended⟩ := bind_eq_ok ended
    cases point
    cases ended
    have read := name?_nameChars name (by simp : ([] : List Char).head? ≠ some '"')
    have readSchema := name?_nameChars schema (by simp : ('.' :: nameChars name).head? ≠ some '"')
    rw [List.append_nil] at read
    refine ⟨nameChars name, ?_, read⟩
    rw [String.toList_append, String.toList_append, quoteIdentifier_ok inSchema,
      quoteIdentifier_ok named, List.append_assoc]
    exact readSchema

end Generation

/-- What the text of a command has to say for a tree: read to its end it is a statement that says
what the body asks for. For a routine it is the routine's own text, unless that is blank or there is
none, and then its name. -/
inductive Transcribes (form : DateTimeForm) (tree : CommandTree) : Command → Prop where
  | statement {text : String} {s : Statement} {made : List Parameter}
      (read : statement? text.toList = some (s, []))
      (said : Generation.Says form (tree.parameters.map (·.name)) tree.body s made) :
      Transcribes form tree ⟨text, .text, made⟩
  | routineText {r : Routine} (body : tree.body = .function r) {text : String}
      (own : r.commandText = some text) (filled : isAllBlank text = false) :
      Transcribes form tree ⟨text, .text, []⟩
  | routineCall {r : Routine} (body : tree.body = .function r) {text : String}
      (blank : ∀ own, r.commandText = some own → isAllBlank own = true)
      (read : Generation.ReadsCall r text.toList) :
      Transcribes form tree ⟨text, .storedProcedure, []⟩

/-- A command's text is read back as what its tree asks for. -/
theorem generate_transcribes {form : DateTimeForm} {tree : CommandTree} {c : Command}
    (generated : generate form tree = .ok c) : Transcribes form tree c := by
  cases body : tree.body with
  | function r =>
    unfold generate at generated
    rw [body] at generated
    change Generation.routineCommand r = .ok c at generated
    unfold Generation.routineCommand at generated
    split at generated
    · rename_i text filled
      cases generated
      obtain ⟨own, filled⟩ := Option.filter_eq_some_iff.mp filled
      exact .routineText body own (by simpa using filled)
    · rename_i blank
      obtain ⟨text, named, generated⟩ := bind_eq_ok generated
      cases generated
      refine .routineCall body (fun own someOwn => ?_) (Generation.routineName_reads named)
      rw [someOwn] at blank
      simpa [Option.filter] using blank
  | _ =>
    have statement : tree.body.routine? = none := by rw [body]; rfl
    obtain ⟨draft, rfl, said, -⟩ := Generation.generate_drafted generated statement
    exact .statement (statement?_text said.readable) said

/-- A quote in a name and a quote in a text stay where they are. -/
theorem generate_transcribes_quotes :
    let tree : CommandTree :=
      ⟨[], .query "a\"b" [] [⟨"c", .constant (.text "d' AND @e") (.ofKind .string)⟩]⟩
    let c : Command := ⟨"SELECT * FROM \"a\"\"b\" WHERE \"c\" = 'd'' AND @e'", .text, []⟩
    generate .iso8601 tree = .ok c ∧ Transcribes .iso8601 tree c := by
  intro tree c
  have generated : generate .iso8601 tree = .ok c := rfl
  exact ⟨generated, generate_transcribes generated⟩

end StoreBridge

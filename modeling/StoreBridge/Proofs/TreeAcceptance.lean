import StoreBridge.Proofs.CompileOutcome
import StoreBridge.Proofs.Deciding
import StoreBridge.Proofs.LiteralMeaning
import StoreBridge.Proofs.Trimming

/-! Which trees compile. On its way to a command a tree passes checks of its names, of what its
operands refer to, of the constants that are written in place, and of its declarations. A check is
decided by a condition on the tree, and what does not meet the condition is an invalid argument; the
conditions of checks that follow one another add up, whichever names of the command's own are given
on the way. A constant that is sent is not checked, for it need not have a literal. -/
namespace StoreBridge
open Text Sql

/-- A name of a parameter: a letter or an underscore, and after it letters, digits and underscores,
all of them of ASCII. -/
def WordLike (name : String) : Prop :=
  ∃ c cs, name.toList = c :: cs ∧ (c.isAlpha = true ∨ c = '_') ∧
    ∀ d ∈ cs, d.isAlphanum = true ∨ d = '_'

theorem isDigit_eq (c : Char) : Text.isDigit c = c.isDigit := by
  simp only [Text.isDigit, Char.isDigit, Char.le_def, ge_iff_le]

theorem isName_iff_wordLike {name : String} :
    Parameter.isName name.toList = true ↔ WordLike name := by
  unfold WordLike
  cases name.toList with
  | nil =>
    constructor
    · intro isName
      cases isName
    · rintro ⟨c, cs, never, -⟩
      cases never
  | cons c cs =>
    have exists_split (p : Char → List Char → Prop) :
        (∃ d ds, c :: cs = d :: ds ∧ p d ds) ↔ p c cs := by simp
    rw [exists_split]
    simp only [Parameter.isName, isLetter_eq_isAlpha, isDigit_eq, Char.isAlphanum,
      Bool.and_eq_true, Bool.or_eq_true, List.all_eq_true, beq_iff_eq]

/-- A value can be written in place: it is no real number out of the finite ones, and a date/time
that is written as ticks has a number of them. -/
structure Value.Writable (form : DateTimeForm) (v : Value) : Prop where
  finite : ∀ x, v = .real x → x.isFinite = true
  counted : form = .ticks → ∀ t, v = .dateTime t → ∃ n, t.ticks = .ok n

theorem checkIdentifier_decided (name : String) :
    DecidedBy (name ≠ "") (checkIdentifier name) := by
  unfold checkIdentifier
  by_cases nothing : name = ""
  · rw [if_pos (String.isEmpty_iff.mpr nothing)]
    exact .unmet (fun something => something nothing) rfl
  · rw [if_neg (mt String.isEmpty_iff.mp nothing)]
    exact .met nothing name

theorem checkName_decided (name : String) :
    DecidedBy (Parameter.isName name.toList = true) (Parameter.checkName name) := by
  by_cases isName : Parameter.isName name.toList = true
  · rw [CommandTree.checkName_of_isName isName]
    exact .met isName ()
  · unfold Parameter.checkName
    rw [if_neg isName]
    split
    · exact .unmet isName rfl
    · exact .unmet isName rfl

theorem ticks_decided (t : DateTime) : DecidedBy (∃ n, t.ticks = .ok n) t.ticks := by
  unfold DateTime.ticks
  split
  · exact .met ⟨_, rfl⟩ _
  · exact .unmet (fun ⟨_, never⟩ => nomatch never) rfl

theorem Value.datum_decided (form : DateTimeForm) (v : Value) :
    DecidedBy (form = .ticks → ∀ t, v = .dateTime t → ∃ n, t.ticks = .ok n) (v.datum form) := by
  cases v with
  | dateTime t =>
    cases form with
    | iso8601 => exact .met (fun never => nomatch never) _
    | ticks =>
      refine ((ticks_decided t).map Datum.integer).of_iff ?_
      simp
  | _ => exact .met (fun _ _ never => nomatch never) _

/-- Only a real number is sent as one. -/
theorem Value.datum_eq_real {form : DateTimeForm} {v : Value} {x : Binary64} :
    v.datum form = .ok (.real x) ↔ v = .real x := by
  cases v with
  | dateTime t =>
    cases form with
    | iso8601 => simp [datum]
    | ticks => cases counted : t.ticks <;> simp [datum, counted, Except.map]
  | _ => simp [datum]

theorem Datum.literal_decided (d : Datum) : DecidedBy (d.hasLiteral = true) d.literal := by
  cases d with
  | real x =>
    unfold literal hasLiteral
    simp only
    split
    · rename_i finite
      exact .met finite _
    · rename_i infinite
      exact .unmet infinite rfl
  | _ => exact .met rfl _

namespace Generation

/-- A term can stand for an operand: what it refers to is known, and a constant that stays in place
can be written there. -/
def Spellable (known : String → Prop) (style : ConstantStyle) : Operand → Prop
  | .null => True
  | .parameter name => known name
  | .constant value _ => ∀ form, style = .inPlace form → value.Writable form

/-- A clause names a column, and has an operand that a term can stand for. -/
@[mk_iff]
structure Clear (known : String → Prop) (style : ConstantStyle) (clause : Clause) : Prop where
  column : clause.column ≠ ""
  operand : Spellable known style clause.operand

/-- The generator knows the names that are declared, if placeholders can have them. -/
def Known (declared : List String) (name : String) : Prop :=
  Parameter.isName name.toList = true ∧ name ∈ declared

section Checks
variable (declared : List String) (style : ConstantStyle)

theorem parameterTerm_decided (name : String) :
    DecidedBy (Known declared name) (parameterTerm declared name) := by
  refine (checkName_decided name).bind fun _ _ => ?_
  split
  · rename_i among
    exact .met (List.contains_iff_mem.mp among) _
  · rename_i missing
    exact .unmet (mt List.contains_iff_mem.mpr missing) rfl

theorem constantTerm_decided (value : Value) (type : ConceptualType) (supply : Supply) :
    DecidedBy (Spellable (Known declared) style (.constant value type))
      (constantTerm declared style value type supply) := by
  cases style with
  | sent => exact .met (fun _ never => nomatch never) _
  | inPlace form =>
    have finite (d : Datum) (sent : value.datum form = .ok d) :
        d.hasLiteral = true ↔ ∀ x, value = .real x → x.isFinite = true := by
      rw [Datum.hasLiteral_iff]
      refine forall_congr' fun x => imp_congr_left ?_
      have real : value.datum form = .ok (.real x) ↔ value = .real x := Value.datum_eq_real
      rw [← real, sent, Except.ok.injEq]
    have steps : DecidedBy _ (constantTerm declared (.inPlace form) value type supply) :=
      (value.datum_decided form).bind fun d sent =>
        ((Datum.literal_decided d).of_iff (finite d sent)).last fun _ => ⟨_, rfl⟩
    refine steps.of_iff ⟨?_, ?_⟩
    · rintro ⟨counted, finite⟩ _ same
      cases same
      exact ⟨finite, counted⟩
    · intro spellable
      obtain ⟨finite, counted⟩ := spellable form rfl
      exact ⟨counted, finite⟩

theorem term_decided (operand : Operand) (supply : Supply) :
    DecidedBy (Spellable (Known declared) style operand) (term declared style operand supply) := by
  cases operand with
  | null => exact .met trivial _
  | parameter name => exact (parameterTerm_decided declared name).last fun _ => ⟨_, rfl⟩
  | constant value type => exact constantTerm_decided declared style value type supply

theorem assignments_decided (clauses : List Clause) (supply : Supply) :
    DecidedBy (∀ clause ∈ clauses, Clear (Known declared) style clause)
      (assignments declared style clauses supply) := by
  induction clauses generalizing supply with
  | nil => exact .met (fun _ among => nomatch among) _
  | cons clause clauses ih =>
    -- The conditions of a clause and of those behind it, in the order of the checks.
    rw [List.forall_mem_cons, clear_iff, and_assoc]
    refine (checkIdentifier_decided clause.column).bind fun column _ => ?_
    refine (term_decided declared style clause.operand supply).bind fun (t, between) _ => ?_
    exact (ih between).last fun _ => ⟨_, rfl⟩

theorem condition_decided (clause : Clause) (supply : Supply) :
    DecidedBy (Clear (Known declared) style clause) (condition declared style clause supply) := by
  obtain ⟨column, operand⟩ := clause
  rw [clear_iff]
  refine (checkIdentifier_decided column).bind fun _ _ => ?_
  cases operand with
  | null => exact .met trivial _
  | parameter | constant =>
    exact (term_decided declared style _ supply).last fun _ => ⟨_, rfl⟩

theorem conditions_decided (clauses : List Clause) (supply : Supply) :
    DecidedBy (∀ clause ∈ clauses, Clear (Known declared) style clause)
      (conditions declared style clauses supply) := by
  induction clauses generalizing supply with
  | nil => exact .met (fun _ among => nomatch among) _
  | cons clause clauses ih =>
    rw [List.forall_mem_cons]
    refine (condition_decided declared style clause supply).bind fun (c, between) _ => ?_
    exact (ih between).last fun _ => ⟨_, rfl⟩

end Checks

/-- A routine can be run: it comes with a text that is not blank, or can be called by its name. -/
inductive Runnable (r : Routine) : Prop where
  | text {text : String} (own : r.commandText = some text)
      (filled : ∃ c ∈ text.toList, isBlank c = false) : Runnable r
  | name (schema : ∀ schema, r.schema = some schema → schema ≠ "") (name : r.name ≠ "") :
      Runnable r

/-- A command can be written for a body. Only a query leaves its constants in place. -/
def Expressible (form : DateTimeForm) (known : String → Prop) : CommandBody → Prop
  | .query table columns filter =>
    (∀ column ∈ columns, column ≠ "") ∧ table ≠ "" ∧
      ∀ clause ∈ filter, Clear known (.inPlace form) clause
  | .insert table values => table ≠ "" ∧ ∀ clause ∈ values, Clear known .sent clause
  | .update table values filter =>
    values ≠ [] ∧ table ≠ "" ∧ (∀ clause ∈ values, Clear known .sent clause) ∧
      ∀ clause ∈ filter, Clear known .sent clause
  | .delete table filter => table ≠ "" ∧ ∀ clause ∈ filter, Clear known .sent clause
  | .function r => Runnable r

section Bodies
variable (declared : List String) (form : DateTimeForm)

theorem selection_decided (columns : List String) :
    DecidedBy (∀ column ∈ columns, column ≠ "") (selection columns) := by
  cases columns with
  | nil => exact .met (fun _ among => nomatch among) _
  | cons column columns =>
    exact (DecidedBy.mapM checkIdentifier_decided (column :: columns)).last fun _ => ⟨_, rfl⟩

theorem query_decided (table : String) (columns : List String) (filter : List Clause) :
    DecidedBy (Expressible form (Known declared) (.query table columns filter))
      (query declared form table columns filter) := by
  refine (selection_decided columns).bind fun _ _ => ?_
  refine (checkIdentifier_decided table).bind fun _ _ => ?_
  exact (conditions_decided declared (.inPlace form) filter {}).last fun _ => ⟨_, rfl⟩

theorem insertion_decided (table : String) (values : List Clause) :
    DecidedBy (Expressible form (Known declared) (.insert table values))
      (insertion declared table values) := by
  refine (checkIdentifier_decided table).bind fun _ _ => ?_
  exact (assignments_decided declared .sent values {}).last fun _ => ⟨_, rfl⟩

theorem update_decided (table : String) (values filter : List Clause) :
    DecidedBy (Expressible form (Known declared) (.update table values filter))
      (update declared table values filter) := by
  cases values with
  | nil => exact .unmet (fun expressible => expressible.1 rfl) rfl
  | cons clause values =>
    refine DecidedBy.of_iff ?_ (and_iff_right (List.cons_ne_nil clause values)).symm
    refine (checkIdentifier_decided table).bind fun _ _ => ?_
    refine (assignments_decided declared .sent (clause :: values) {}).bind fun (_, supply) _ => ?_
    exact (conditions_decided declared .sent filter supply).last fun _ => ⟨_, rfl⟩

theorem deletion_decided (table : String) (filter : List Clause) :
    DecidedBy (Expressible form (Known declared) (.delete table filter))
      (deletion declared table filter) := by
  refine (checkIdentifier_decided table).bind fun _ _ => ?_
  exact (conditions_decided declared .sent filter {}).last fun _ => ⟨_, rfl⟩

end Bodies

theorem quoteIdentifier_decided (name : String) :
    DecidedBy (name ≠ "") (quoteIdentifier name) :=
  (checkIdentifier_decided name).last fun _ => ⟨_, rfl⟩

theorem routineName_decided (r : Routine) :
    DecidedBy ((∀ schema, r.schema = some schema → schema ≠ "") ∧ r.name ≠ "") (routineName r) := by
  obtain ⟨name, schema, text, parameters⟩ := r
  have named (front : String) : DecidedBy (name ≠ "")
      (do return front ++ (← quoteIdentifier name) : Except Failure String) :=
    (quoteIdentifier_decided name).last fun _ => ⟨_, rfl⟩
  cases schema with
  | none => exact (named "").of_iff (by simp)
  | some schema =>
    have both : DecidedBy (schema ≠ "" ∧ name ≠ "")
        (routineName ⟨name, some schema, text, parameters⟩) :=
      (quoteIdentifier_decided schema).bind fun quoted _ => named (quoted ++ ".")
    exact both.of_iff (by simp)

/-- A routine is called by its name only where it has no text to be run by. -/
theorem routineCommand_decided (r : Routine) : DecidedBy (Runnable r) (routineCommand r) := by
  unfold routineCommand
  cases own : r.commandText.filter fun text => !isAllBlank text with
  | some text =>
    rw [Option.filter_eq_some_iff] at own
    obtain ⟨own, filled⟩ := own
    refine .met (.text own ?_) _
    simpa [isAllBlank] using filled
  | none =>
    rw [Option.filter_eq_none_iff] at own
    refine ((routineName_decided r).last fun _ => ⟨_, rfl⟩).of_iff ⟨?_, ?_⟩
    · rintro ⟨schema, name⟩
      exact .name schema name
    · intro runnable
      cases runnable with
      | name schema name => exact ⟨schema, name⟩
      | @text text some filled =>
        have blank : ∀ c ∈ text.toList, isBlank c = true := by
          simpa [isAllBlank] using own text some
        obtain ⟨c, among, solid⟩ := filled
        rw [blank c among] at solid
        cases solid

/-- The generator makes a command of a tree exactly where one can be written for its body. -/
theorem generate_decided (form : DateTimeForm) (tree : CommandTree) :
    DecidedBy (Expressible form (Known (tree.parameters.map (·.name))) tree.body)
      (generate form tree) := by
  obtain ⟨parameters, body⟩ := tree
  cases body with
  | query table columns filter => exact (query_decided _ form table columns filter).map _
  | insert table values => exact (insertion_decided _ form table values).map _
  | update table values filter => exact (update_decided _ form table values filter).map _
  | delete table filter => exact (deletion_decided _ form table filter).map _
  | function r => exact routineCommand_decided r

/-- No parameters are made for a query or a routine. -/
theorem generate_parameters {form : DateTimeForm} {tree : CommandTree} {c : Command}
    (made : generate form tree = .ok c) (permits : tree.body.permitsGenerated = false) :
    c.parameters = [] := by
  obtain ⟨parameters, body⟩ := tree
  cases body with
  | query table columns filter =>
    obtain ⟨⟨statement, own⟩, rfl, said, -⟩ := generate_drafted made rfl
    cases said
    rfl
  | function r =>
    replace made : routineCommand r = .ok c := made
    unfold routineCommand at made
    split at made
    · cases made
      rfl
    · obtain ⟨name, -, ended⟩ := bind_eq_ok made
      cases ended
      rfl
  | insert | update | delete => cases permits

end Generation

namespace Declared

/-- A declaration that is refused cannot stand with the others. -/
theorem Refused.not_acceptable {front behind : List DeclaredParameter} {d : DeclaredParameter}
    {failure : Failure} (refused : Refused front d failure) :
    ¬Acceptable (front ++ d :: behind) := by
  rintro ⟨distinct, named⟩
  have isName := named d (List.mem_append_right front List.mem_cons_self)
  cases refused with
  | repeated again =>
    rw [List.map_append, List.nodup_append] at distinct
    exact distinct.2.2 _ again _ List.mem_cons_self rfl
  | empty _ nothing =>
    rw [nothing] at isName
    cases isName
  | malformed _ _ noName =>
    rw [noName] at isName
    cases isName

end Declared

namespace CommandTree
open Declared Generation

/-- What a tree has to be to compile: its declarations have names, each another one, and a command
can be written for its body, which refers to declared parameters alone. -/
structure Compilable (form : DateTimeForm) (tree : CommandTree) : Prop where
  distinct : (tree.parameters.map (·.name)).Nodup
  named : ∀ d ∈ tree.parameters, WordLike d.name
  body : Expressible form (· ∈ tree.parameters.map (·.name)) tree.body

variable {form : DateTimeForm} {tree : CommandTree}

/-- Where declarations are acceptable, the generator knows all that are declared. -/
theorem known_iff {declarations : List DeclaredParameter} (acceptable : Acceptable declarations) :
    Known (declarations.map (·.name)) = (· ∈ declarations.map (·.name)) := by
  funext name
  refine propext (and_iff_right_of_imp fun among => ?_)
  obtain ⟨d, declared, rfl⟩ := List.mem_map.mp among
  exact acceptable.named d declared

theorem compilable_iff : tree.Compilable form ↔
    Acceptable tree.parameters ∧
      Expressible form (Known (tree.parameters.map (·.name))) tree.body := by
  constructor
  · rintro ⟨distinct, named, body⟩
    have acceptable : Acceptable tree.parameters :=
      ⟨distinct, fun d among => isName_iff_wordLike.mpr (named d among)⟩
    exact ⟨acceptable, known_iff acceptable ▸ body⟩
  · rintro ⟨acceptable, body⟩
    rw [known_iff acceptable] at body
    exact ⟨acceptable.distinct, fun d among => isName_iff_wordLike.mp (acceptable.named d among),
      body⟩

/-- The generator's checks of the body and those of the declarations are all there are. -/
theorem compile_decided (form : DateTimeForm) (tree : CommandTree) :
    DecidedBy (tree.Compilable form) (tree.compile generate form) := by
  obtain ⟨result, outcome⟩ := exists_outcome generate form tree
  have body := generate_decided form tree
  rw [outcome.compile_eq, compilable_iff]
  cases outcome with
  | notGenerated failed =>
    rw [failed] at body
    cases body with
    | unmet fails invalid => exact .unmet (mt And.right fails) invalid
  | refused made split acceptable refused =>
    rw [split]
    exact .unmet (mt And.left refused.not_acceptable) (refused_category refused)
  | notPermitted made acceptable own permits =>
    -- Another generator could come to this, but this one makes no parameters that are not permitted.
    exact absurd (generate_parameters made permits) own
  | compiled made acceptable permitted stand =>
    rw [made] at body
    cases body with
    | met expressible => exact .met ⟨acceptable, expressible⟩ _

end CommandTree
end StoreBridge

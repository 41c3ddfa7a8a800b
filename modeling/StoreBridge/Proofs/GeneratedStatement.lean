import StoreBridge.Proofs.Deciding
import StoreBridge.Proofs.OwnNames
import StoreBridge.Proofs.StatementReading

/-! The statements that the generator makes. A statement says what a tree asks for, clause by clause
and in order; the parameters made on the way are those of the constants that are sent, each under a
name of its own. Read back from its text, a generated statement is still all that the tree asks for.
-/
namespace StoreBridge
open Text Sql

theorem Datum.literal_eq_ok {d : Datum} {text : String} :
    d.literal = .ok text ↔ d.hasLiteral = true ∧ String.ofList d.literalChars = text := by
  cases d with
  | real x =>
    unfold literal hasLiteral
    simp only
    split
    · rename_i finite
      simp [finite]
    · rename_i infinite
      simp [infinite]
  | _ => simp [literal, hasLiteral]

namespace Generation

/-- What stands for an operand in a statement, and the parameters made for it: null is null, a
declared parameter goes by its name, and a constant is its value where constants are written in
place, and else a parameter of its own. -/
inductive Spelled (declared : List String) :
    ConstantStyle → Operand → Term → List Parameter → Prop where
  | null (style : ConstantStyle) : Spelled declared style .null (.literal .null) []
  | parameter (style : ConstantStyle) {name : String} (among : name ∈ declared)
      (isName : Parameter.isName name.toList = true) :
      Spelled declared style (.parameter name) (.placeholder ⟨.atSign, name⟩) []
  | literal {form : DateTimeForm} {value : Value} (type : ConceptualType) {datum : Datum}
      (sent : value.datum form = .ok datum) (hasLiteral : datum.hasLiteral = true) :
      Spelled declared (.inPlace form) (.constant value type) (.literal datum) []
  | own (value : Value) (type : ConceptualType) {i : Nat} (free : ownName i ∉ declared) :
      Spelled declared .sent (.constant value type) (.placeholder ⟨.atSign, ownName i⟩)
        [.derived (ownName i) type .input value]

/-- Each of some things stands for its counterpart, and the parameters made for them follow one
another. -/
inductive InTurn {α β : Type} (stands : α → β → List Parameter → Prop) :
    List α → List β → List Parameter → Prop where
  | nil : InTurn stands [] [] []
  | cons {a : α} {b : β} {made : List Parameter} {as : List α} {bs : List β}
      {later : List Parameter} (first : stands a b made) (rest : InTurn stands as bs later) :
      InTurn stands (a :: as) (b :: bs) (made ++ later)

/-- An assignment is to the column of its clause, of what its operand is spelled as. -/
inductive Assigns (declared : List String) (style : ConstantStyle) :
    Clause → String × Term → List Parameter → Prop where
  | mk {clause : Clause} {t : Term} {made : List Parameter}
      (spelled : Spelled declared style clause.operand t made) :
      Assigns declared style clause (clause.column, t) made

/-- A condition asks whether the column is null exactly for the operand null, and else whether it
equals what the operand is spelled as. -/
inductive Asks (declared : List String) (style : ConstantStyle) :
    Clause → Condition → List Parameter → Prop where
  | isNull {clause : Clause} (null : clause.operand = .null) :
      Asks declared style clause (.isNull clause.column) []
  | equals {clause : Clause} (value : clause.operand ≠ .null) {t : Term} {made : List Parameter}
      (spelled : Spelled declared style clause.operand t made) :
      Asks declared style clause (.equals clause.column t) made

/-- All columns are selected exactly when none is listed. -/
def selected : List String → Selection
  | [] => .all
  | columns => .columns columns

/-- What a statement has to say for the body of a tree, and the parameters made for it. -/
inductive Says (form : DateTimeForm) (declared : List String) :
    CommandBody → Statement → List Parameter → Prop where
  | query {table : String} {columns : List String} {filter : List Clause}
      {conditions : List Condition}
      (asks : InTurn (Asks declared (.inPlace form)) filter conditions []) :
      Says form declared (.query table columns filter)
        (.select (selected columns) table conditions) []
  | insert {table : String} {values : List Clause} {assignments : List (String × Term)}
      {made : List Parameter} (assigns : InTurn (Assigns declared .sent) values assignments made) :
      Says form declared (.insert table values) (.insert table assignments) made
  | update {table : String} {values filter : List Clause} {assignments : List (String × Term)}
      {conditions : List Condition} {made later : List Parameter} (assigning : values ≠ [])
      (assigns : InTurn (Assigns declared .sent) values assignments made)
      (asks : InTurn (Asks declared .sent) filter conditions later) :
      Says form declared (.update table values filter) (.update table assignments conditions)
        (made ++ later)
  | delete {table : String} {filter : List Clause} {conditions : List Condition}
      {made : List Parameter} (asks : InTurn (Asks declared .sent) filter conditions made) :
      Says form declared (.delete table filter) (.delete table conditions) made

/-- What happens to the supply of parameters: some are made, under names that are not declared and
have not been given before, and will not be given again. -/
structure Grows (declared : List String) (before : Supply) (made : List Parameter)
    (after : Supply) : Prop where
  made_eq : after.made = before.made ++ made
  le : before.next ≤ after.next
  named : ∀ p ∈ made, ∃ i, before.next ≤ i ∧ i < after.next ∧ p.name = ownName i
  distinct : (made.map (·.name)).Nodup

section Growth
variable {declared : List String}

theorem grows_refl (declared : List String) (supply : Supply) :
    Grows declared supply [] supply where
  made_eq := (List.append_nil _).symm
  le := Nat.le_refl _
  named := fun _ among => nomatch among
  distinct := List.nodup_nil

/-- One growth after another gives no name twice. -/
theorem Grows.trans {first second third : Supply} {made later : List Parameter}
    (before : Grows declared first made second) (after : Grows declared second later third) :
    Grows declared first (made ++ later) third where
  made_eq := by rw [after.made_eq, before.made_eq, List.append_assoc]
  le := Nat.le_trans before.le after.le
  named := by
    intro p among
    rcases List.mem_append.mp among with early | late
    · obtain ⟨i, least, greatest, name⟩ := before.named p early
      exact ⟨i, least, Nat.lt_of_lt_of_le greatest after.le, name⟩
    · obtain ⟨i, least, greatest, name⟩ := after.named p late
      exact ⟨i, Nat.le_trans before.le least, greatest, name⟩
  distinct := by
    rw [List.map_append, List.nodup_append]
    refine ⟨before.distinct, after.distinct, ?_⟩
    intro a early b late same
    obtain ⟨p, here, rfl⟩ := List.mem_map.mp early
    obtain ⟨q, there, rfl⟩ := List.mem_map.mp late
    obtain ⟨i, -, below, name⟩ := before.named p here
    obtain ⟨j, above, -, name'⟩ := after.named q there
    rw [name, name'] at same
    have indices := ownName_injective same
    omega

theorem checkName_ok {name : String} (checked : Parameter.checkName name = .ok ()) :
    Parameter.isName name.toList = true := by
  unfold Parameter.checkName at checked
  split at checked
  · cases checked
  · split at checked
    · assumption
    · cases checked

private theorem parameterTerm_ok {name : String} {t : Term}
    (made : parameterTerm declared name = .ok t) :
    t = .placeholder ⟨.atSign, name⟩ ∧ name ∈ declared ∧ Parameter.isName name.toList = true := by
  obtain ⟨u, checked, made⟩ := bind_eq_ok made
  split at made
  · rename_i among
    cases made
    exact ⟨rfl, List.contains_iff_mem.mp among, checkName_ok checked⟩
  · cases made

/-- A term stands for its operand, and at most one parameter is made for it. -/
theorem term_spelled {style : ConstantStyle} {operand : Operand} {supply after : Supply} {t : Term}
    (made : term declared style operand supply = .ok (t, after)) :
    ∃ parameters, Grows declared supply parameters after ∧
      Spelled declared style operand t parameters := by
  cases operand with
  | null =>
    cases made
    exact ⟨[], grows_refl declared _, .null style⟩
  | parameter name =>
    obtain ⟨u, found, made⟩ := bind_eq_ok made
    obtain ⟨rfl, among, isName⟩ := parameterTerm_ok found
    cases made
    exact ⟨[], grows_refl declared _, .parameter style among isName⟩
  | constant value type =>
    cases style with
    | inPlace form =>
      obtain ⟨datum, sent, made⟩ := bind_eq_ok made
      obtain ⟨text, literal, made⟩ := bind_eq_ok made
      cases made
      exact ⟨[], grows_refl declared _, .literal type sent (Datum.literal_eq_ok.mp literal).1⟩
    | sent =>
      cases made
      have least := le_freeIndex declared supply.next
      refine ⟨_, ⟨rfl, Nat.le_succ_of_le least, ?_, by simp⟩,
        .own value type (freeIndex_free declared _)⟩
      intro p among
      rw [List.mem_singleton.mp among]
      exact ⟨_, least, Nat.lt_succ_self _, rfl⟩

theorem checkIdentifier_ok {name checked : String} (ok : checkIdentifier name = .ok checked) :
    checked = name ∧ name ≠ "" := by
  unfold checkIdentifier at ok
  split at ok
  · cases ok
  · rename_i filled
    cases ok
    exact ⟨rfl, fun empty => filled (by simp [empty])⟩

/-- Assignments follow their clauses. -/
theorem assignments_inTurn {style : ConstantStyle} {clauses : List Clause} {supply after : Supply}
    {made : List (String × Term)}
    (ended : assignments declared style clauses supply = .ok (made, after)) :
    ∃ parameters, Grows declared supply parameters after ∧
      InTurn (Assigns declared style) clauses made parameters := by
  induction clauses generalizing supply made with
  | nil =>
    cases ended
    exact ⟨[], grows_refl declared _, .nil⟩
  | cons clause clauses ih =>
    obtain ⟨column, checked, ended⟩ := bind_eq_ok ended
    obtain ⟨⟨t, between⟩, first, ended⟩ := bind_eq_ok ended
    obtain ⟨⟨others, last⟩, rest, ended⟩ := bind_eq_ok ended
    cases ended
    obtain ⟨rfl, -⟩ := checkIdentifier_ok checked
    obtain ⟨parameters, grows, spelled⟩ := term_spelled first
    obtain ⟨later, growsLater, inTurn⟩ := ih rest
    exact ⟨parameters ++ later, grows.trans growsLater, .cons (.mk spelled) inTurn⟩

/-- A condition stands for its clause. -/
private theorem condition_asks {style : ConstantStyle} {clause : Clause} {supply after : Supply}
    {made : Condition} (ended : condition declared style clause supply = .ok (made, after)) :
    ∃ parameters, Grows declared supply parameters after ∧
      Asks declared style clause made parameters := by
  obtain ⟨column, checked, ended⟩ := bind_eq_ok ended
  obtain ⟨rfl, -⟩ := checkIdentifier_ok checked
  split at ended
  · rename_i null
    cases ended
    exact ⟨[], grows_refl declared _, .isNull null⟩
  · rename_i value
    obtain ⟨⟨t, last⟩, first, ended⟩ := bind_eq_ok ended
    cases ended
    obtain ⟨parameters, grows, spelled⟩ := term_spelled first
    exact ⟨parameters, grows, .equals value spelled⟩

/-- Conditions follow their clauses. -/
theorem conditions_inTurn {style : ConstantStyle} {clauses : List Clause} {supply after : Supply}
    {made : List Condition} (ended : conditions declared style clauses supply = .ok (made, after)) :
    ∃ parameters, Grows declared supply parameters after ∧
      InTurn (Asks declared style) clauses made parameters := by
  induction clauses generalizing supply made with
  | nil =>
    cases ended
    exact ⟨[], grows_refl declared _, .nil⟩
  | cons clause clauses ih =>
    obtain ⟨⟨c, between⟩, first, ended⟩ := bind_eq_ok ended
    obtain ⟨⟨others, last⟩, rest, ended⟩ := bind_eq_ok ended
    cases ended
    obtain ⟨parameters, grows, asks⟩ := condition_asks first
    obtain ⟨later, growsLater, inTurn⟩ := ih rest
    exact ⟨parameters ++ later, grows.trans growsLater, .cons asks inTurn⟩

/-- Where constants are written in place, no parameters are made. -/
theorem Spelled.made_nil {form : DateTimeForm} {operand : Operand} {t : Term}
    {made : List Parameter} (spelled : Spelled declared (.inPlace form) operand t made) :
    made = [] := by
  cases spelled <;> rfl

theorem Asks.made_nil {form : DateTimeForm} {clause : Clause} {condition : Condition}
    {made : List Parameter} (asks : Asks declared (.inPlace form) clause condition made) :
    made = [] := by
  cases asks with
  | isNull => rfl
  | equals _ spelled => exact spelled.made_nil

theorem InTurn.made_nil {α β : Type} {stands : α → β → List Parameter → Prop} {as : List α}
    {bs : List β} {made : List Parameter} (inTurn : InTurn stands as bs made)
    (silent : ∀ a b made, stands a b made → made = []) : made = [] := by
  induction inTurn with
  | nil => rfl
  | cons first rest ih => rw [silent _ _ _ first, ih, List.append_nil]

theorem selection_ok {columns : List String} {made : Selection}
    (ended : selection columns = .ok made) : made = selected columns := by
  have listed (names checked : List String) (ended : names.mapM checkIdentifier = .ok checked) :
      checked = names := by
    induction names generalizing checked with
    | nil =>
      cases ended
      rfl
    | cons name names ih =>
      rw [List.mapM_cons] at ended
      obtain ⟨first, identifier, ended⟩ := bind_eq_ok ended
      obtain ⟨others, rest, ended⟩ := bind_eq_ok ended
      cases ended
      rw [(checkIdentifier_ok identifier).1, ih others rest]
  cases columns with
  | nil =>
    cases ended
    rfl
  | cons name names =>
    obtain ⟨checked, all, ended⟩ := bind_eq_ok ended
    cases ended
    rw [listed _ _ all]
    rfl

end Growth

section Drafts
variable {declared : List String} {form : DateTimeForm} {draft : Draft}

/-- A draft says what the body asks for, and gives no name twice. -/
def Drafted (form : DateTimeForm) (declared : List String) (body : CommandBody) (draft : Draft) :
    Prop :=
  Says form declared body draft.statement draft.made ∧
    ∃ after, Grows declared {} draft.made after

theorem query_drafted {table : String} {columns : List String} {filter : List Clause}
    (ended : query declared form table columns filter = .ok draft) :
    Drafted form declared (.query table columns filter) draft := by
  obtain ⟨selection, found, ended⟩ := bind_eq_ok ended
  obtain ⟨name, checked, ended⟩ := bind_eq_ok ended
  obtain ⟨⟨conditions, after⟩, asked, ended⟩ := bind_eq_ok ended
  cases ended
  obtain ⟨made, grows, asks⟩ := conditions_inTurn asked
  obtain rfl := asks.made_nil fun _ _ _ => Asks.made_nil
  obtain rfl := selection_ok found
  obtain ⟨rfl, -⟩ := checkIdentifier_ok checked
  have none : after.made = [] := grows.made_eq
  rw [Drafted, none]
  exact ⟨.query asks, after, grows⟩

theorem insertion_drafted {table : String} {values : List Clause}
    (ended : insertion declared table values = .ok draft) :
    Drafted form declared (.insert table values) draft := by
  obtain ⟨name, checked, ended⟩ := bind_eq_ok ended
  obtain ⟨⟨assignments, after⟩, assigned, ended⟩ := bind_eq_ok ended
  cases ended
  obtain ⟨made, grows, assigns⟩ := assignments_inTurn assigned
  obtain ⟨rfl, -⟩ := checkIdentifier_ok checked
  have all : after.made = made := grows.made_eq
  rw [Drafted, all]
  exact ⟨.insert assigns, after, grows⟩

theorem update_drafted {table : String} {values filter : List Clause}
    (ended : update declared table values filter = .ok draft) :
    Drafted form declared (.update table values filter) draft := by
  cases values with
  | nil => cases ended
  | cons clause values =>
    obtain ⟨name, checked, ended⟩ := bind_eq_ok ended
    obtain ⟨⟨assignments, between⟩, assigned, ended⟩ := bind_eq_ok ended
    obtain ⟨⟨conditions, after⟩, asked, ended⟩ := bind_eq_ok ended
    cases ended
    obtain ⟨made, grows, assigns⟩ := assignments_inTurn assigned
    obtain ⟨later, growsLater, asks⟩ := conditions_inTurn asked
    obtain ⟨rfl, -⟩ := checkIdentifier_ok checked
    have growsBoth := grows.trans growsLater
    have all : after.made = made ++ later := growsBoth.made_eq
    rw [Drafted, all]
    exact ⟨.update (List.cons_ne_nil _ _) assigns asks, after, growsBoth⟩

theorem deletion_drafted {table : String} {filter : List Clause}
    (ended : deletion declared table filter = .ok draft) :
    Drafted form declared (.delete table filter) draft := by
  obtain ⟨name, checked, ended⟩ := bind_eq_ok ended
  obtain ⟨⟨conditions, after⟩, asked, ended⟩ := bind_eq_ok ended
  cases ended
  obtain ⟨made, grows, asks⟩ := conditions_inTurn asked
  obtain ⟨rfl, -⟩ := checkIdentifier_ok checked
  have all : after.made = made := grows.made_eq
  rw [Drafted, all]
  exact ⟨.delete asks, after, grows⟩

end Drafts

/-- A generated command of a tree that calls no routine is a draft's. -/
theorem generate_drafted {form : DateTimeForm} {tree : CommandTree} {c : Command}
    (generated : generate form tree = .ok c) (statement : tree.body.routine? = none) :
    ∃ draft : Draft, c = draft.command ∧
      Drafted form (tree.parameters.map (·.name)) tree.body draft := by
  unfold generate at generated
  obtain ⟨parameters, body⟩ := tree
  cases body with
  | query table columns filter =>
    obtain ⟨draft, ended, rfl⟩ := map_eq_ok generated
    exact ⟨draft, rfl, query_drafted ended⟩
  | insert table values =>
    obtain ⟨draft, ended, rfl⟩ := map_eq_ok generated
    exact ⟨draft, rfl, insertion_drafted ended⟩
  | update table values filter =>
    obtain ⟨draft, ended, rfl⟩ := map_eq_ok generated
    exact ⟨draft, rfl, update_drafted ended⟩
  | delete table filter =>
    obtain ⟨draft, ended, rfl⟩ := map_eq_ok generated
    exact ⟨draft, rfl, deletion_drafted ended⟩
  | function routine => cases statement

end Generation
end StoreBridge

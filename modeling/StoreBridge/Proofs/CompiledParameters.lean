import StoreBridge.Proofs.GeneratedText

/-! The parameters of a compiled command fit its text. They are the declared ones and behind them
one for each constant that is sent, in the order of the tree; no name is given twice; and the
operands of the text are placeholders of these parameters, each parameter of the command's own being
the operand of one clause only. -/
namespace StoreBridge
open Text Sql

/-- The constant that an operand is. -/
def Operand.constant? : Operand → Option (Value × ConceptualType)
  | .constant value type => some (value, type)
  | _ => none

/-- The operands that conditions compare with: null is not compared with. -/
def comparedOperands (filter : List Clause) : List Operand :=
  (filter.map (·.operand)).filter (· ≠ .null)

namespace CommandBody

/-- The operands that are written into the statement of a body: first those that are assigned, then
those that are compared with. -/
def operands : CommandBody → List Operand
  | .query _ _ filter => comparedOperands filter
  | .insert _ values => values.map (·.operand)
  | .update _ values filter => values.map (·.operand) ++ comparedOperands filter
  | .delete _ filter => comparedOperands filter
  | .function _ => []

/-- The constants that are sent as parameters, in the order of the tree; a query sends none. -/
def sentConstants (body : CommandBody) : List (Value × ConceptualType) :=
  if body.permitsGenerated then body.operands.filterMap (·.constant?) else []

end CommandBody

namespace Generation

section InTurn
variable {declared : List String}

theorem InTurn.append {α β : Type} {stands : α → β → List Parameter → Prop} {as as' : List α}
    {bs bs' : List β} {made made' : List Parameter} (front : InTurn stands as bs made)
    (behind : InTurn stands as' bs' made') :
    InTurn stands (as ++ as') (bs ++ bs') (made ++ made') := by
  induction front with
  | nil => exact behind
  | cons first rest ih =>
    rw [List.append_assoc]
    exact .cons first ih

theorem InTurn.assigned {style : ConstantStyle} {values : List Clause}
    {assignments : List (String × Term)} {made : List Parameter}
    (assigns : InTurn (Assigns declared style) values assignments made) :
    InTurn (Spelled declared style) (values.map (·.operand)) (assignments.map (·.2)) made := by
  induction assigns with
  | nil => exact .nil
  | cons first rest ih =>
    cases first with
    | mk spelled => exact .cons spelled ih

theorem InTurn.compared {style : ConstantStyle} {filter : List Clause} {conditions : List Condition}
    {made : List Parameter} (asks : InTurn (Asks declared style) filter conditions made) :
    InTurn (Spelled declared style) (comparedOperands filter) (termsOf [] conditions) made := by
  induction asks with
  | nil => exact .nil
  | cons first rest ih =>
    cases first with
    | isNull null => simpa [comparedOperands, termsOf, null] using ih
    | equals value spelled => simpa [comparedOperands, termsOf, value] using InTurn.cons spelled ih

/-- The terms of a statement are its body's operands, spelled one after the other. -/
theorem Says.inTurn {form : DateTimeForm} {body : CommandBody} {s : Statement}
    {made : List Parameter} (said : Says form declared body s made) :
    InTurn (Spelled declared (if body.permitsGenerated then .sent else .inPlace form))
      body.operands s.terms made := by
  cases said with
  | query asks => exact asks.compared
  | insert assigns =>
    have terms := assigns.assigned
    simpa [CommandBody.permitsGenerated, CommandBody.operands, Statement.terms, termsOf] using terms
  | update _ assigns asks =>
    have terms := assigns.assigned.append asks.compared
    simpa [CommandBody.permitsGenerated, CommandBody.operands, Statement.terms, termsOf] using terms
  | delete asks => exact asks.compared

theorem InTurn.length_eq {α β : Type} {stands : α → β → List Parameter → Prop} {as : List α}
    {bs : List β} {made : List Parameter} (inTurn : InTurn stands as bs made) :
    as.length = bs.length := by
  induction inTurn with
  | nil => rfl
  | cons _ _ ih => simp [ih]

end InTurn

/-- The parameter of a command's own that stands for a constant. -/
def ownParameter (name : String) (constant : Value × ConceptualType) : Parameter :=
  .derived name constant.2 .input constant.1

/-- The placeholder of a parameter. -/
def placeholderOf (name : String) : Term :=
  .placeholder ⟨.atSign, name⟩

section Sent
variable {declared : List String} {operands : List Operand} {terms : List Term}
  {made : List Parameter}

/-- One parameter is made for each constant, from its value and its type. -/
theorem InTurn.made_eq (inTurn : InTurn (Spelled declared .sent) operands terms made) :
    (made.map (·.name)).length = (operands.filterMap (·.constant?)).length ∧
      made = List.zipWith ownParameter (made.map (·.name)) (operands.filterMap (·.constant?)) := by
  induction inTurn with
  | nil => exact ⟨rfl, rfl⟩
  | cons first rest ih =>
    obtain ⟨length, parameters⟩ := ih
    cases first with
    | null | parameter => exact ⟨length, parameters⟩
    | own value type free =>
      constructor
      · simpa [Operand.constant?] using length
      · exact congrArg (List.cons _) parameters

/-- One parameter is made for each constant that a body sends. -/
theorem Says.made_eq {form : DateTimeForm} {body : CommandBody} {s : Statement}
    (said : Says form declared body s made) :
    (made.map (·.name)).length = body.sentConstants.length ∧
      made = List.zipWith ownParameter (made.map (·.name)) body.sentConstants := by
  have inTurn := said.inTurn
  unfold CommandBody.sentConstants
  cases permits : body.permitsGenerated with
  | true =>
    rw [permits] at inTurn
    exact inTurn.made_eq
  | false =>
    rw [permits] at inTurn
    rw [inTurn.made_nil fun _ _ _ => Spelled.made_nil]
    exact ⟨rfl, rfl⟩

/-- The terms of the constants are the placeholders of their parameters. -/
theorem InTurn.own_terms (inTurn : InTurn (Spelled declared .sent) operands terms made) :
    ((operands.zip terms).filterMap fun (o, t) => o.constant?.map fun _ => t) =
      (made.map (·.name)).map placeholderOf := by
  induction inTurn with
  | nil => rfl
  | cons first rest ih =>
    cases first with
    | null | parameter => exact ih
    | own value type free =>
      exact congrArg (List.cons _) ih

/-- The names of parameters that are made are not declared, and they are names of parameters. -/
theorem InTurn.made_free {style : ConstantStyle}
    (inTurn : InTurn (Spelled declared style) operands terms made) :
    ∀ p ∈ made, p.name ∉ declared ∧ Parameter.isName p.name.toList = true := by
  induction inTurn with
  | nil => exact fun _ among => nomatch among
  | cons first rest ih =>
    intro p among
    rcases List.mem_append.mp among with here | later
    · cases first with
      | own value type free =>
        rw [List.mem_singleton.mp here]
        exact ⟨free, isName_ownName _⟩
      | _ => cases here
    · exact ih p later

/-- A name that is not declared stands in as many clauses as there are parameters of that name. -/
theorem InTurn.count_placeholder {style : ConstantStyle}
    (inTurn : InTurn (Spelled declared style) operands terms made) {name : String}
    (free : name ∉ declared) :
    terms.count (placeholderOf name) = (made.map (·.name)).count name := by
  induction inTurn with
  | nil => rfl
  | cons first rest ih =>
    cases first with
    | null | literal => simpa [placeholderOf] using ih
    | @parameter _ other among =>
      have different : other ≠ name := fun same => free (same ▸ among)
      simpa [placeholderOf, different] using ih
    | own => simpa [placeholderOf, Parameter.derived, List.count_cons] using ih

/-- Every placeholder is of a declared parameter or of one that was made. -/
theorem InTurn.placeholder_mem {style : ConstantStyle}
    (inTurn : InTurn (Spelled declared style) operands terms made) {p : Placeholder}
    (among : .placeholder p ∈ terms) :
    p.sigil = .atSign ∧ p.name ∈ declared ++ made.map (·.name) := by
  induction inTurn with
  | nil => cases among
  | cons first rest ih =>
    rw [List.map_append, List.mem_append, List.mem_append]
    rcases List.mem_cons.mp among with here | later
    · cases first with
      | null | literal => cases here
      | parameter _ known =>
        cases here
        exact ⟨rfl, .inl known⟩
      | own =>
        cases here
        exact ⟨rfl, .inr (.inl (List.mem_singleton.mpr rfl))⟩
    · obtain ⟨sigil, known⟩ := ih later
      rcases List.mem_append.mp known with known | made
      · exact ⟨sigil, .inl known⟩
      · exact ⟨sigil, .inr (.inr made)⟩

end Sent

end Generation

/-- The parameter that a declaration stands for where no routine has a say on it. -/
def DeclaredParameter.input (d : DeclaredParameter) : Parameter :=
  .derived d.name d.type .input .null

namespace CommandTree

theorem declaredAll_ok {seen : List String} {declared : List DeclaredParameter}
    {parameters : List Parameter} (ended : declaredAll none seen declared = .ok parameters) :
    parameters = declared.map (·.input) ∧ (declared.map (·.name)).Nodup ∧
      (∀ d ∈ declared, d.name ∉ seen) ∧
      ∀ d ∈ declared, Parameter.isName d.name.toList = true := by
  induction declared generalizing seen parameters with
  | nil =>
    cases ended
    exact ⟨rfl, List.nodup_nil, fun _ among => (nomatch among), fun _ among => (nomatch among)⟩
  | cons d declared ih =>
    unfold declaredAll at ended
    split at ended
    · cases ended
    · rename_i fresh
      obtain ⟨first, created, ended⟩ := bind_eq_ok ended
      obtain ⟨others, rest, ended⟩ := bind_eq_ok ended
      obtain ⟨u, checked, created⟩ := bind_eq_ok created
      cases created
      cases ended
      obtain ⟨rfl, distinct, unseen, named⟩ := ih rest
      refine ⟨rfl, List.nodup_cons.mpr ⟨?_, distinct⟩, ?_, ?_⟩
      · intro again
        obtain ⟨e, among, same⟩ := List.mem_map.mp again
        exact unseen e among (same ▸ List.mem_cons_self ..)
      · intro e among
        rcases List.mem_cons.mp among with rfl | among
        · exact fun here => fresh (List.contains_iff_mem.mpr here)
        · exact fun here => unseen e among (List.mem_cons_of_mem _ here)
      · intro e among
        rcases List.mem_cons.mp among with rfl | among
        · exact Generation.checkName_ok checked
        · exact named e among

/-- A command that is compiled is a generated one, with the declared parameters in front. -/
theorem compile_ok {generator : Generator} {form : DateTimeForm} {tree : CommandTree} {c : Command}
    (compiled : tree.compile generator form = .ok c) :
    ∃ generated parameters, generator form tree = .ok generated ∧
      declaredAll tree.body.routine? [] tree.parameters = .ok parameters ∧
      (generated.parameters = [] ∨ tree.body.permitsGenerated = true) ∧
      c = { generated with parameters := parameters ++ generated.parameters } := by
  obtain ⟨generated, made, compiled⟩ := bind_eq_ok compiled
  obtain ⟨parameters, declared, compiled⟩ := bind_eq_ok compiled
  refine ⟨generated, parameters, made, declared, ?_⟩
  split at compiled
  · cases compiled
  · rename_i permitted
    cases compiled
    refine ⟨?_, rfl⟩
    cases none : generated.parameters.isEmpty with
    | true => exact .inl (List.isEmpty_iff.mp none)
    | false => exact .inr (by simpa [none] using permitted)

/-- How the parameters of a command fit the tree that it was compiled from and the statement that
its text is. The names are those of its own parameters. -/
structure ParametersFit (tree : CommandTree) (c : Command) (names : List String) (s : Statement) :
    Prop where
  count : names.length = tree.body.sentConstants.length
  parameters : c.parameters = tree.parameters.map (·.input) ++
    List.zipWith Generation.ownParameter names tree.body.sentConstants
  distinct : (c.parameters.map (·.name)).Nodup
  named : ∀ p ∈ c.parameters, Parameter.isName p.name.toList = true
  operands : tree.body.operands.length = s.terms.length
  own : tree.body.permitsGenerated = true →
    ((tree.body.operands.zip s.terms).filterMap fun (o, t) => o.constant?.map fun _ => t) =
      names.map Generation.placeholderOf
  bound : ∀ p, .placeholder p ∈ s.terms → p.sigil = .atSign ∧ p.name ∈ c.parameters.map (·.name)
  once : ∀ name ∈ names, s.terms.count (Generation.placeholderOf name) = 1

end CommandTree
end StoreBridge

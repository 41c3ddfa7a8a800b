import StoreBridge.Proofs.CompiledParameters

/-! What a generated command depends on beside the body of its tree. Of the declared parameters only
names count, and of the names only whether those are among them that the body refers to, and those
that the command's own parameters could have. The form of date/times counts only where a query
compares a column with a date/time, which it writes in place. -/
namespace StoreBridge
open Sql

/-- The parameter that an operand refers to. -/
def Operand.reference? : Operand → Option String
  | .parameter name => some name
  | _ => none

namespace CommandBody

/-- The names of the parameters that the operands of a body refer to. -/
def references (body : CommandBody) : List String :=
  body.operands.filterMap (·.reference?)

/-- A date/time is written in place: a query compares a column with it. -/
def WritesInstant : CommandBody → Prop
  | .query _ _ filter => ∃ clause ∈ filter, ∃ t type, clause.operand = .constant (.dateTime t) type
  | _ => False

theorem mem_references {body : CommandBody} {name : String} :
    name ∈ body.references ↔ .parameter name ∈ body.operands := by
  unfold references
  rw [List.mem_filterMap]
  constructor
  · rintro ⟨operand, among, refers⟩
    cases operand with
    | parameter other =>
      cases refers
      exact among
    | _ => cases refers
  · intro among
    exact ⟨_, among, rfl⟩

end CommandBody

theorem mem_comparedOperands {filter : List Clause} {operand : Operand} :
    operand ∈ comparedOperands filter ↔
      (∃ clause ∈ filter, clause.operand = operand) ∧ operand ≠ .null := by
  simp [comparedOperands]

/-- Only a date/time has two forms. -/
theorem Value.datum_congr {value : Value} (timeless : ∀ t, value ≠ .dateTime t)
    (form form' : DateTimeForm) : value.datum form = value.datum form' := by
  cases value with
  | dateTime t => exact absurd rfl (timeless t)
  | _ => rfl

namespace Generation

/-- Two lists of names agree on all names of the command's own parameters. -/
def AgreeOnOwn (declared other : List String) : Prop :=
  ∀ i, ownName i ∈ declared ↔ ownName i ∈ other

/-- A constant looks the same in both styles: they are one, or both write in place what is not a
date/time. -/
inductive LooksAlike : ConstantStyle → ConstantStyle → Operand → Prop where
  | same (style : ConstantStyle) (operand : Operand) : LooksAlike style style operand
  | timeless (form form' : DateTimeForm) {operand : Operand}
      (timeless : ∀ t type, operand ≠ .constant (.dateTime t) type) :
      LooksAlike (.inPlace form) (.inPlace form') operand

section Names
variable {declared other : List String}

private theorem freeIndex_le (agree : AgreeOnOwn declared other) (i : Nat) :
    freeIndex declared declared.length i ≤ freeIndex other other.length i := by
  refine Nat.le_of_not_lt fun earlier => ?_
  have taken := declared_of_lt_freeIndex (le_freeIndex other i) earlier
  exact freeIndex_free other i ((agree _).mp taken)

/-- The first free index is one, whatever else is declared, and however many tries that allows. -/
theorem freeIndex_congr (agree : AgreeOnOwn declared other) (i : Nat) :
    freeIndex declared declared.length i = freeIndex other other.length i :=
  Nat.le_antisymm (freeIndex_le agree i) (freeIndex_le (fun i => (agree i).symm) i)

theorem parameterTerm_congr {name : String} (agree : name ∈ declared ↔ name ∈ other) :
    parameterTerm declared name = parameterTerm other name := by
  have contains : declared.contains name = other.contains name := by
    rw [Bool.eq_iff_iff, List.contains_iff_mem, List.contains_iff_mem, agree]
  rw [parameterTerm, contains]
  rfl

theorem constantTerm_congr {style style' : ConstantStyle} {value : Value} {type : ConceptualType}
    (agree : AgreeOnOwn declared other) (alike : LooksAlike style style' (.constant value type))
    (supply : Supply) :
    constantTerm declared style value type supply =
      constantTerm other style' value type supply := by
  cases alike with
  | same =>
    cases style with
    | inPlace form => rfl
    | sent => simp only [constantTerm, freeIndex_congr agree]
  | timeless form form' timeless =>
    have written := Value.datum_congr (fun t same => timeless t type (same ▸ rfl)) form form'
    simp only [constantTerm, written]

/-- An operand is spelled alike if it looks alike and what it refers to is declared on both sides or
on none. -/
theorem term_congr {style style' : ConstantStyle} {operand : Operand}
    (agree : AgreeOnOwn declared other)
    (referenced : ∀ name, operand = .parameter name → (name ∈ declared ↔ name ∈ other))
    (alike : LooksAlike style style' operand) (supply : Supply) :
    term declared style operand supply = term other style' operand supply := by
  cases operand with
  | null => rfl
  | parameter name => rw [term, parameterTerm_congr (referenced name rfl)]; rfl
  | constant value type => exact constantTerm_congr agree alike supply

end Names

section Clauses
variable {declared other : List String} {style style' : ConstantStyle}

/-- Every operand of the clauses is spelled alike. -/
def SpelledAlike (declared other : List String) (style style' : ConstantStyle)
    (clauses : List Clause) : Prop :=
  ∀ clause ∈ clauses, ∀ supply,
    term declared style clause.operand supply = term other style' clause.operand supply

theorem assignments_congr {clauses : List Clause}
    (alike : SpelledAlike declared other style style' clauses) (supply : Supply) :
    assignments declared style clauses supply = assignments other style' clauses supply := by
  induction clauses generalizing supply with
  | nil => rfl
  | cons clause clauses ih =>
    have first := alike clause List.mem_cons_self
    have rest := ih fun c among => alike c (List.mem_cons_of_mem _ among)
    simp only [assignments, first, rest]

theorem condition_congr {clause : Clause}
    (alike : ∀ supply, term declared style clause.operand supply =
      term other style' clause.operand supply) (supply : Supply) :
    condition declared style clause supply = condition other style' clause supply := by
  obtain ⟨column, operand⟩ := clause
  cases operand with
  | null => rfl
  | _ => simp only [condition, alike]

theorem conditions_congr {clauses : List Clause}
    (alike : SpelledAlike declared other style style' clauses) (supply : Supply) :
    conditions declared style clauses supply = conditions other style' clauses supply := by
  induction clauses generalizing supply with
  | nil => rfl
  | cons clause clauses ih =>
    have first := condition_congr (alike clause List.mem_cons_self)
    have rest := ih fun c among => alike c (List.mem_cons_of_mem _ among)
    simp only [conditions, first, rest]

/-- Clauses are spelled alike if what they refer to is declared on both sides or on none, and their
constants look alike. -/
theorem spelledAlike {clauses : List Clause} (agree : AgreeOnOwn declared other)
    (referenced : ∀ clause ∈ clauses, ∀ name, clause.operand = .parameter name →
      (name ∈ declared ↔ name ∈ other))
    (alike : ∀ clause ∈ clauses, LooksAlike style style' clause.operand) :
    SpelledAlike declared other style style' clauses :=
  fun clause among => term_congr agree (referenced clause among) (alike clause among)

end Clauses
end Generation

open Generation in
/-- Two trees with one body give the same command, or the same failure, if their declarations agree
on the names that the body refers to and on the names of the command's own parameters. The forms of
date/times may differ unless the body writes one in place. -/
theorem generate_congr {body : CommandBody} {here there : List DeclaredParameter}
    {form form' : DateTimeForm}
    (referenced : ∀ name ∈ body.references,
      (name ∈ here.map (·.name) ↔ name ∈ there.map (·.name)))
    (own : AgreeOnOwn (here.map (·.name)) (there.map (·.name)))
    (written : body.WritesInstant → form = form') :
    generate form ⟨here, body⟩ = generate form' ⟨there, body⟩ := by
  -- The names that clauses of the body refer to are among its references.
  have assigned (values : List Clause) (inside : ∀ o ∈ values.map (·.operand), o ∈ body.operands) :
      ∀ clause ∈ values, ∀ name, clause.operand = .parameter name →
        (name ∈ here.map (·.name) ↔ name ∈ there.map (·.name)) :=
    fun clause among name refers => referenced name <| CommandBody.mem_references.mpr <|
      refers ▸ inside _ (List.mem_map_of_mem among)
  have compared (filter : List Clause) (inside : ∀ o ∈ comparedOperands filter, o ∈ body.operands) :
      ∀ clause ∈ filter, ∀ name, clause.operand = .parameter name →
        (name ∈ here.map (·.name) ↔ name ∈ there.map (·.name)) :=
    fun clause among name refers => referenced name <| CommandBody.mem_references.mpr <|
      inside _ (mem_comparedOperands.mpr ⟨⟨clause, among, refers⟩, Operand.noConfusion⟩)
  cases body with
  | query table columns filter =>
    have alike : ∀ clause ∈ filter, LooksAlike (.inPlace form) (.inPlace form') clause.operand := by
      intro clause among
      by_cases timeless : ∀ t type, clause.operand ≠ .constant (.dateTime t) type
      · exact .timeless form form' timeless
      · push Not at timeless
        obtain ⟨t, type, constant⟩ := timeless
        rw [written ⟨clause, among, t, type, constant⟩]
        exact .same ..
    have asked := conditions_congr <| spelledAlike own (compared filter fun _ => id) alike
    simp only [generate, query, asked]
  | insert table values =>
    have set := assignments_congr <| spelledAlike own (assigned values fun _ => id) fun clause _ =>
      .same .sent clause.operand
    simp only [generate, insertion, set]
  | update table values filter =>
    have set := assignments_congr <| spelledAlike own
      (assigned values fun _ => List.mem_append_left _) fun clause _ => .same .sent clause.operand
    have asked := conditions_congr <| spelledAlike own
      (compared filter fun _ => List.mem_append_right _) fun clause _ => .same .sent clause.operand
    simp only [generate, update, set, asked]
  | delete table filter =>
    have asked := conditions_congr <| spelledAlike own (compared filter fun _ => id) fun clause _ =>
      .same .sent clause.operand
    simp only [generate, deletion, asked]
  | function r => rfl

/-- The declarations may stand in another order and have other types, one may be given twice, and
there may be more of them. -/
theorem generate_congr_declarations :
    let day : DateTime := ⟨2020, 1, 2, 3, 4, 5, 0, by decide⟩
    let body : CommandBody := .update "t"
      [⟨"a", .parameter "x"⟩, ⟨"b", .constant (.dateTime day) (.ofKind .dateTime)⟩]
      [⟨"c", .parameter "x"⟩]
    let here : List DeclaredParameter := [⟨"p0", .ofKind .int32⟩, ⟨"x", .ofKind .string⟩]
    let there : List DeclaredParameter :=
      [⟨"x", .ofKind .guid⟩, ⟨"z", .ofKind .byte⟩, ⟨"p0", .ofKind .time⟩, ⟨"x", .ofKind .int64⟩]
    let c : Command := ⟨"UPDATE \"t\" SET \"a\" = @x, \"b\" = @p1 WHERE \"c\" = @x", .text,
      [.derived "p1" (.ofKind .dateTime) .input (.dateTime day)]⟩
    generate .iso8601 ⟨here, body⟩ = .ok c ∧ generate .ticks ⟨there, body⟩ = .ok c := by
  intro day body here there c
  have made : generate .iso8601 ⟨here, body⟩ = .ok c := by decide +kernel
  have referenced : ∀ name ∈ body.references,
      (name ∈ here.map (·.name) ↔ name ∈ there.map (·.name)) := by decide +kernel
  have own : Generation.AgreeOnOwn (here.map (·.name)) (there.map (·.name)) := by
    intro i
    have other : Generation.ownName i ≠ "z" := by
      intro same
      have first := congrArg (·.toList.head?) same
      simp [Generation.ownName] at first
    show _ ∈ ["p0", "x"] ↔ _ ∈ ["x", "z", "p0", "x"]
    simp only [List.mem_cons, List.not_mem_nil, or_false, other, false_or]
    tauto
  have same : generate .iso8601 ⟨here, body⟩ = generate .ticks ⟨there, body⟩ :=
    generate_congr referenced own fun never => never.elim
  exact ⟨made, same ▸ made⟩

/-- A date/time that is written in place shows its form. -/
example :
    let day : DateTime := ⟨2020, 1, 2, 3, 4, 5, 0, by decide⟩
    let tree : CommandTree :=
      ⟨[], .query "t" [] [⟨"a", .constant (.dateTime day) (.ofKind .dateTime)⟩]⟩
    generate .iso8601 tree ≠ generate .ticks tree := by
  decide +kernel

end StoreBridge

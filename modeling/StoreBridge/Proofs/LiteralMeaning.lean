import StoreBridge.Proofs.PlaceholderBinding

/-! What literals mean. The literal of a value is read back, to its end, as the value of the store
that the value is sent as, in the same storage class; it is there for all values that can be sent
but real numbers that are not finite. So it makes no difference to the store whether a constant
stands in the text of a command or is bound to a placeholder in it. -/
namespace StoreBridge
open Text Sql

/-- The value that a term stands for when placeholders are bound; a literal stands for its own. -/
def Sql.Term.value? (binding : Store.Binding) : Term → Option Datum
  | .literal d => some d
  | .placeholder slot => binding.lookup slot

theorem Datum.hasLiteral_iff {d : Datum} :
    d.hasLiteral = true ↔ ∀ x, d = .real x → x.isFinite = true := by
  constructor
  · rintro finite x rfl
    exact finite
  · intro finite
    cases d with
    | real x => exact finite x rfl
    | _ => rfl

theorem Value.literal_eq_ok {form : DateTimeForm} {v : Value} {text : String} :
    v.literal form = .ok text ↔ ∃ d, v.datum form = .ok d ∧ d.literal = .ok text := by
  constructor
  · exact bind_eq_ok
  · rintro ⟨d, sent, written⟩
    rw [Value.literal, sent]
    exact written

/-- A literal is read to its end as the value that it was written for. -/
theorem Datum.term?_literal {d : Datum} {text : String} (written : d.literal = .ok text) :
    term? text.toList = some (.literal d, []) := by
  obtain ⟨hasLiteral, rfl⟩ := literal_eq_ok.mp written
  have readable : (Term.literal d).Readable := hasLiteral
  have read := reads_term readable [] ends_nil
  rwa [List.append_nil, ← String.toList_ofList (l := (Term.literal d).chars)] at read

/-- A value has a literal exactly when it can be sent and is not a real number without one. -/
theorem Value.literal_isOk {form : DateTimeForm} {v : Value} :
    (∃ text, v.literal form = .ok text) ↔
      ∃ d, v.datum form = .ok d ∧ ∀ x, d = .real x → x.isFinite = true := by
  constructor
  · rintro ⟨text, made⟩
    obtain ⟨d, sent, written⟩ := literal_eq_ok.mp made
    exact ⟨d, sent, Datum.hasLiteral_iff.mp (Datum.literal_eq_ok.mp written).1⟩
  · rintro ⟨d, sent, finite⟩
    have written := Datum.literal_eq_ok.mpr ⟨Datum.hasLiteral_iff.mpr finite, rfl⟩
    exact ⟨_, literal_eq_ok.mpr ⟨d, sent, written⟩⟩

namespace Generation

/-- Things that stand for one another in turn stand for one another at each place. -/
theorem InTurn.of_mem_zip {α β : Type} {stands : α → β → List Parameter → Prop} {as : List α}
    {bs : List β} {made : List Parameter} (inTurn : InTurn stands as bs made) {a : α} {b : β}
    (among : (a, b) ∈ as.zip bs) : ∃ part, stands a b part ∧ ∀ p ∈ part, p ∈ made := by
  induction inTurn with
  | nil => cases among
  | @cons _ _ part _ _ later first rest ih =>
    rcases List.mem_cons.mp among with here | behind
    · cases here
      exact ⟨part, first, fun p => List.mem_append_left later⟩
    · obtain ⟨own, stands, inside⟩ := ih behind
      exact ⟨own, stands, fun p among => List.mem_append_right part (inside p among)⟩

end Generation

namespace Command

/-- The statement that a command speaks is the one that its text is read as. -/
theorem Speaks.eq_of_read {c : Command} {s other : Statement} (speaks : c.Speaks s)
    (read : statement? c.text.toList = some (other, [])) : other = s := by
  rw [speaks.text, statement?_text speaks.readable] at read
  cases read
  rfl

/-- The values that a command is prepared with are bound to its placeholders. -/
theorem Speaks.binds_of_prepare {c : Command} {s : Statement} {store : Store} {form : DateTimeForm}
    {p : Store.Prepared} {binding : Store.Binding} (speaks : c.Speaks s)
    (prepared : c.prepare store form = .ok (p, binding)) : c.Binds form binding := by
  rcases speaks.run_binds store form with ⟨failure, failed, -⟩ | ⟨p', b, ready, -, binds, -⟩
  · rw [prepared] at failed
    cases failed
  · rw [prepared] at ready
    cases ready
    exact binds

/-- The value of the only parameter of a placeholder's name is what the placeholder is bound to. -/
theorem Binds.lookup {c : Command} {form : DateTimeForm} {binding : Store.Binding}
    (binds : c.Binds form binding) {q : Parameter} (among : q ∈ c.parameters)
    (occurs : ⟨.atSign, q.name⟩ ∈ placeholdersIn c.text) :
    ∃ d, q.value.datum form = .ok d ∧ binding.lookup ⟨.atSign, q.name⟩ = some d := by
  obtain ⟨-, only, d, alone, sent, bound⟩ := binds.value _ occurs
  have here : q ∈ c.parameters.filter (·.name == q.name) :=
    List.mem_filter.mpr ⟨among, beq_self_eq_true _⟩
  rw [alone] at here
  rw [List.mem_singleton.mp here]
  exact ⟨d, sent, by rw [← List.mem_singleton.mp here]; exact bound⟩

end Command

namespace CommandTree
open Generation

/-- The statement that the text of a compiled command is read as says what the tree asks for, and
the parameters made for it are among those of the command. -/
theorem says_of_read {form : DateTimeForm} {tree : CommandTree} {c : Command} {s : Statement}
    (compiled : tree.compile generate form = .ok c) (statement : tree.body.routine? = none)
    (read : statement? c.text.toList = some (s, [])) :
    ∃ made, Says form (tree.parameters.map (·.name)) tree.body s made ∧
      ∀ q ∈ made, q ∈ c.parameters := by
  obtain ⟨generated, parameters, made, -, -, rfl⟩ := compile_ok compiled
  obtain ⟨draft, rfl, said, -⟩ := generate_drafted made statement
  replace read : statement? draft.statement.text.toList = some (s, []) := read
  rw [statement?_text said.readable] at read
  cases read
  exact ⟨draft.made, said, fun q => List.mem_append_right parameters⟩

/-- When the text of a compiled command is prepared, each constant of its tree stands for the value
of the store that it is sent as, whether it is written in place or bound. -/
theorem constant_value {form : DateTimeForm} {tree : CommandTree} {c : Command} {s : Statement}
    {store : Store} {p : Store.Prepared} {binding : Store.Binding}
    (compiled : tree.compile generate form = .ok c) (statement : tree.body.routine? = none)
    (read : statement? c.text.toList = some (s, []))
    (prepared : c.prepare store form = .ok (p, binding)) {v : Value} {type : ConceptualType}
    {t : Term} (among : (.constant v type, t) ∈ tree.body.operands.zip s.terms) :
    ∃ d, v.datum form = .ok d ∧ t.value? binding = some d := by
  obtain ⟨spoken, speaks⟩ := exists_speaks compiled statement
  obtain rfl := speaks.eq_of_read read
  obtain ⟨made, said, inside⟩ := says_of_read compiled statement read
  obtain ⟨part, spelled, own⟩ := said.inTurn.of_mem_zip among
  -- A query writes its constants in place, and other bodies send them.
  cases permits : tree.body.permitsGenerated with
  | false =>
    rw [permits] at spelled
    cases spelled with
    | literal _ sent _ => exact ⟨_, sent, rfl⟩
  | true =>
    rw [permits] at spelled
    cases spelled with
    | @own _ _ i free =>
      have occurs : ⟨.atSign, ownName i⟩ ∈ s.placeholders := by
        rw [placeholders_eq, List.mem_eraseDups]
        exact List.mem_filterMap.mpr ⟨_, (List.of_mem_zip among).2, rfl⟩
      rw [← speaks.placeholdersIn_eq] at occurs
      have here := inside _ (own _ (List.mem_singleton.mpr rfl))
      exact (speaks.binds_of_prepare prepared).lookup here occurs

end CommandTree

/-- The literal of a value is there exactly when the value can be sent and is no real number out of
the finite ones; it is read to its end as what is sent; and that is what the value, as a constant of
a tree that is compiled, stands for in the command that is run, be it written in place or bound. -/
theorem literal_means_sent (form : DateTimeForm) (v : Value) :
    ((∃ text, v.literal form = .ok text) ↔
        ∃ d, v.datum form = .ok d ∧ ∀ x, d = .real x → x.isFinite = true) ∧
      (∀ text, v.literal form = .ok text →
        ∃ d, v.datum form = .ok d ∧ term? text.toList = some (.literal d, [])) ∧
      ∀ (tree : CommandTree) (c : Command) (s : Statement) (store : Store) (p : Store.Prepared)
        (binding : Store.Binding), tree.compile generate form = .ok c →
        tree.body.routine? = none → statement? c.text.toList = some (s, []) →
        c.prepare store form = .ok (p, binding) → ∀ (type : ConceptualType) (t : Term),
        (.constant v type, t) ∈ tree.body.operands.zip s.terms →
          ∃ d, v.datum form = .ok d ∧ t.value? binding = some d := by
  refine ⟨Value.literal_isOk, ?_, ?_⟩
  · intro text made
    obtain ⟨d, sent, written⟩ := Value.literal_eq_ok.mp made
    exact ⟨d, sent, Datum.term?_literal written⟩
  · intro tree c s store p binding compiled statement read prepared type t among
    exact CommandTree.constant_value compiled statement read prepared among

/-- A date/time that is compared with and one that is stored are the same number of ticks. -/
theorem literal_means_sent_ticks :
    let day : DateTime := ⟨2020, 1, 2, 3, 4, 5, 0, by decide⟩
    let constant : Operand := .constant (.dateTime day) (.ofKind .dateTime)
    let ticks : Datum := .integer 637135310450000000
    (Value.dateTime day).literal .ticks = .ok "637135310450000000" ∧
      ∃ store, Store.create ["CREATE TABLE t(a)"] = .ok store ∧
        ∀ body ∈ [.query "t" [] [⟨"a", constant⟩], .insert "t" [⟨"a", constant⟩]],
          ∃ c s p binding t, CommandTree.compile generate .ticks ⟨[], body⟩ = .ok c ∧
            statement? c.text.toList = some (s, []) ∧ c.prepare store .ticks = .ok (p, binding) ∧
            s.terms = [t] ∧ t.value? binding = some ticks := by
  intro day constant ticks
  have written : (Value.dateTime day).literal .ticks = .ok "637135310450000000" := by
    decide +kernel
  have sent : (Value.dateTime day).datum .ticks = .ok ticks := by decide +kernel
  obtain ⟨-, -, means⟩ := literal_means_sent .ticks (.dateTime day)
  -- In each of the commands the constant is the only operand.
  have alone (body : CommandBody) (c : Command) (s : Statement) (t : Term) (store : Store)
      (compiled : CommandTree.compile generate .ticks ⟨[], body⟩ = .ok c)
      (plain : body.routine? = none) (read : statement? c.text.toList = some (s, []))
      (operands : body.operands = [constant]) (terms : s.terms = [t])
      (ready : (c.prepare store .ticks).isOk = true) :
      ∃ c s p binding t, CommandTree.compile generate .ticks ⟨[], body⟩ = .ok c ∧
        statement? c.text.toList = some (s, []) ∧ c.prepare store .ticks = .ok (p, binding) ∧
        s.terms = [t] ∧ t.value? binding = some ticks := by
    cases prepared : c.prepare store .ticks with
    | error failure =>
      rw [prepared] at ready
      cases ready
    | ok result =>
      have among : (constant, t) ∈ body.operands.zip s.terms := by
        rw [operands, terms]
        exact List.mem_singleton.mpr rfl
      obtain ⟨d, same, value⟩ :=
        means _ c s store result.1 result.2 compiled plain read prepared _ t among
      rw [sent] at same
      cases same
      exact ⟨c, s, result.1, result.2, t, compiled, read, prepared, terms, value⟩
  let comparing : Command := ⟨"SELECT * FROM \"t\" WHERE \"a\" = 637135310450000000", .text, []⟩
  let storing : Command := ⟨"INSERT INTO \"t\" (\"a\") VALUES (@p0)", .text,
    [.derived "p0" (.ofKind .dateTime) .input (.dateTime day)]⟩
  have ready : ((Store.create ["CREATE TABLE t(a)"]).toOption.any fun store =>
      (comparing.prepare store .ticks).isOk && (storing.prepare store .ticks).isOk) = true := by
    decide +kernel
  refine ⟨written, ?_⟩
  cases created : Store.create ["CREATE TABLE t(a)"] with
  | error fault =>
    rw [created] at ready
    cases ready
  | ok store =>
    rw [created] at ready
    obtain ⟨compares, stores⟩ := Bool.and_eq_true_iff.mp ready
    refine ⟨store, rfl, fun body among => ?_⟩
    rcases List.mem_cons.mp among with rfl | among
    · exact alone _ comparing (.select .all "t" [.equals "a" (.literal ticks)]) (.literal ticks)
        store (by decide +kernel) rfl (by decide +kernel) rfl rfl compares
    · obtain rfl := List.mem_singleton.mp among
      exact alone _ storing (.insert "t" [("a", .placeholder ⟨.atSign, "p0"⟩)])
        (.placeholder ⟨.atSign, "p0"⟩) store (by decide +kernel) rfl (by decide +kernel) rfl rfl
        stores

end StoreBridge

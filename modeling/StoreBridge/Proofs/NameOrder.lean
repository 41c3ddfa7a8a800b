import Mathlib
import StoreBridge.Proofs.GeneratedStatement

/-! The order in which a command's own parameters are named. A supply in order has given out the free
names from the smallest on, and looks for the next one behind them. Every constant that is sent
keeps it in order, and what every constant keeps is kept by whole lists of clauses and holds of the
parameters of the command. -/
namespace StoreBridge.Generation

/-- However many names are declared, infinitely many are free. -/
theorem infinite_isFree (declared : List String) : {i | IsFree declared i}.Infinite := by
  apply Set.infinite_of_forall_exists_gt
  intro i
  obtain ⟨k, -, free⟩ := exists_free declared (i + 1)
  exact ⟨i + 1 + k, free, by omega⟩

/-- The free names in order, from the smallest index on. -/
noncomputable def freeName (declared : List String) (k : Nat) : String :=
  ownName (Nat.nth (IsFree declared) k)

section Searching
variable {declared : List String} {start tries found : Nat}

/-- There are no free indices before the one that is found. -/
theorem Search.count_eq (search : Search declared start tries found) :
    Nat.count (IsFree declared) found = Nat.count (IsFree declared) start := by
  induction search with
  | ends => rfl
  | goesOn taken _ ih => rw [ih, Nat.count_succ, if_neg taken, Nat.add_zero]

/-- The index that is found is the smallest behind the free ones before the start. -/
theorem Search.found_eq (search : Search declared start tries found) :
    found = Nat.nth (IsFree declared) (Nat.count (IsFree declared) start) := by
  rw [← search.count_eq, Nat.nth_count search.isFree]

end Searching

section Keeping
variable {declared : List String} {style : ConstantStyle} {P : Supply → Prop}

/-- The terms of constants keep what holds of the supply. -/
structure Keeps (declared : List String) (style : ConstantStyle) (P : Supply → Prop) : Prop where
  constant : ∀ {value type supply t after},
    constantTerm declared style value type supply = .ok (t, after) → P supply → P after

theorem Keeps.term (keeps : Keeps declared style P) {operand : Operand} {supply after : Supply}
    {t : Sql.Term} (made : term declared style operand supply = .ok (t, after))
    (holds : P supply) : P after := by
  cases operand with
  | null =>
    cases made
    exact holds
  | parameter name =>
    obtain ⟨u, -, made⟩ := bind_eq_ok made
    cases made
    exact holds
  | constant value type => exact keeps.constant made holds

theorem Keeps.assignments (keeps : Keeps declared style P) {clauses : List Clause}
    {supply after : Supply} {made : List (String × Sql.Term)}
    (ended : assignments declared style clauses supply = .ok (made, after)) (holds : P supply) :
    P after := by
  induction clauses generalizing supply made with
  | nil =>
    cases ended
    exact holds
  | cons clause clauses ih =>
    obtain ⟨column, -, ended⟩ := bind_eq_ok ended
    obtain ⟨⟨t, between⟩, first, ended⟩ := bind_eq_ok ended
    obtain ⟨⟨others, last⟩, rest, ended⟩ := bind_eq_ok ended
    cases ended
    exact ih rest (keeps.term first holds)

theorem Keeps.condition (keeps : Keeps declared style P) {clause : Clause}
    {supply after : Supply} {made : Sql.Condition}
    (ended : condition declared style clause supply = .ok (made, after)) (holds : P supply) :
    P after := by
  obtain ⟨column, -, ended⟩ := bind_eq_ok ended
  split at ended
  · cases ended
    exact holds
  · obtain ⟨⟨t, last⟩, first, ended⟩ := bind_eq_ok ended
    cases ended
    exact keeps.term first holds

theorem Keeps.conditions (keeps : Keeps declared style P) {clauses : List Clause}
    {supply after : Supply} {made : List Sql.Condition}
    (ended : conditions declared style clauses supply = .ok (made, after)) (holds : P supply) :
    P after := by
  induction clauses generalizing supply made with
  | nil =>
    cases ended
    exact holds
  | cons clause clauses ih =>
    obtain ⟨⟨c, between⟩, first, ended⟩ := bind_eq_ok ended
    obtain ⟨⟨others, last⟩, rest, ended⟩ := bind_eq_ok ended
    cases ended
    exact ih rest (keeps.condition first holds)

/-- What holds of the empty supply and is kept holds of the one that a command's own parameters are
taken from. -/
theorem Keeps.generate {form : DateTimeForm} {tree : CommandTree} {c : Command}
    (keeps : Keeps (tree.parameters.map (·.name)) .sent P)
    (generated : generate form tree = .ok c) (permits : tree.body.permitsGenerated = true)
    (empty : P {}) : ∃ supply, P supply ∧ c.parameters = supply.made := by
  unfold StoreBridge.generate at generated
  obtain ⟨parameters, body⟩ := tree
  cases body with
  | query | function => cases permits
  | insert table values =>
    obtain ⟨draft, ended, rfl⟩ := map_eq_ok generated
    obtain ⟨name, -, ended⟩ := bind_eq_ok ended
    obtain ⟨⟨assignments, after⟩, assigned, ended⟩ := bind_eq_ok ended
    cases ended
    exact ⟨after, keeps.assignments assigned empty, rfl⟩
  | update table values filter =>
    obtain ⟨draft, ended, rfl⟩ := map_eq_ok generated
    cases values with
    | nil => cases ended
    | cons clause values =>
      obtain ⟨name, -, ended⟩ := bind_eq_ok ended
      obtain ⟨⟨assignments, between⟩, assigned, ended⟩ := bind_eq_ok ended
      obtain ⟨⟨conditions, after⟩, asked, ended⟩ := bind_eq_ok ended
      cases ended
      exact ⟨after, keeps.conditions asked (keeps.assignments assigned empty), rfl⟩
  | delete table filter =>
    obtain ⟨draft, ended, rfl⟩ := map_eq_ok generated
    obtain ⟨name, -, ended⟩ := bind_eq_ok ended
    obtain ⟨⟨conditions, after⟩, asked, ended⟩ := bind_eq_ok ended
    cases ended
    exact ⟨after, keeps.conditions asked empty, rfl⟩

end Keeping

/-- The parameters made so far have the free names from the smallest on, and the next name is looked
for behind them. -/
structure InOrder (declared : List String) (supply : Supply) : Prop where
  names : supply.made.map (·.name) = (List.range supply.made.length).map (freeName declared)
  next : Nat.count (IsFree declared) supply.next = supply.made.length

theorem inOrder_empty (declared : List String) : InOrder declared {} where
  names := rfl
  next := Nat.count_zero _

/-- A constant that is sent gets the next free name. -/
theorem inOrder_kept (declared : List String) : Keeps declared .sent (InOrder declared) := by
  constructor
  intro value type supply t after made inOrder
  cases made
  obtain ⟨tries, -, search⟩ := search_freeIndex declared supply.next
  have found := search.found_eq
  rw [inOrder.next] at found
  constructor
  · simp only [List.map_append, List.length_append, List.length_singleton, List.range_succ,
      List.map_singleton, inOrder.names]
    simp only [Parameter.derived, freeName, ← found]
  · rw [Nat.count_succ, if_pos search.isFree, search.count_eq, inOrder.next, List.length_append,
      List.length_singleton]

/-- A command's own parameters have the free names in order, of which there are infinitely many; and
from every index on the search for one ends, after one more try than there are declared names at
most, with the index that is taken for the name. -/
theorem ownNames_in_order :
    (∀ (form : DateTimeForm) (tree : CommandTree) (c : Command),
      generate form tree = .ok c → tree.body.permitsGenerated = true →
        c.parameters.map (·.name) =
          (List.range c.parameters.length).map (freeName (tree.parameters.map (·.name)))) ∧
      ∀ declared : List String, {i | IsFree declared i}.Infinite ∧
        ∀ start, ∃ tries, tries ≤ declared.length + 1 ∧
          ∀ n found, Search declared start n found ↔
            n = tries ∧ found = freeIndex declared declared.length start := by
  constructor
  · intro form tree c generated permits
    obtain ⟨supply, inOrder, parameters⟩ :=
      (inOrder_kept _).generate generated permits (inOrder_empty _)
    rw [parameters]
    exact inOrder.names
  · intro declared
    refine ⟨infinite_isFree declared, fun start => ?_⟩
    obtain ⟨tries, few, search⟩ := search_freeIndex declared start
    refine ⟨tries, few, ?_⟩
    intro n found
    constructor
    · intro other
      exact other.unique search
    · rintro ⟨rfl, rfl⟩
      exact search

/-- Where `p0` and `p2` are declared, two constants are named `p1` and `p3`. -/
theorem ownNames_in_order_gaps :
    let int32 : ConceptualType := .ofKind .int32
    let tree : CommandTree :=
      ⟨[⟨"p2", int32⟩, ⟨"p0", int32⟩],
        .update "t" [⟨"a", .constant (.integer 7) int32⟩] [⟨"b", .constant (.integer 8) int32⟩]⟩
    ∃ c, generate .iso8601 tree = .ok c ∧ tree.body.permitsGenerated = true ∧
      c.parameters.map (·.name) = ["p1", "p3"] ∧
      ["p1", "p3"] = (List.range 2).map (freeName ["p2", "p0"]) ∧
      ∃ tries, tries ≤ 3 ∧ Search ["p2", "p0"] 2 tries 3 := by
  intro int32 tree
  obtain ⟨names, search⟩ := ownNames_in_order
  have generated : ∃ c, generate .iso8601 tree = .ok c ∧
      c.parameters.map (·.name) = ["p1", "p3"] := ⟨_, rfl, by decide +kernel⟩
  obtain ⟨c, generated, named⟩ := generated
  have inOrder := names .iso8601 tree c generated rfl
  have two := congrArg List.length named
  rw [List.length_map] at two
  rw [named, two] at inOrder
  have third : 3 = freeIndex ["p2", "p0"] ["p2", "p0"].length 2 := by decide +kernel
  obtain ⟨tries, few, course⟩ := (search ["p2", "p0"]).2 2
  exact ⟨c, generated, rfl, named, inOrder, tries, few, (course tries 3).mpr ⟨rfl, third⟩⟩

end StoreBridge.Generation

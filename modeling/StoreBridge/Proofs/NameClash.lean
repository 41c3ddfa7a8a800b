import StoreBridge.Proofs.CompileOutcome
import StoreBridge.Proofs.PlaceholderBinding
import StoreBridge.Proofs.SlotBinding
import StoreBridge.Proofs.TreeAcceptance

/-! Names that clash among the parameters of a compiled command. Declared names are told apart when
a tree is compiled, but what a generator makes is taken as it is: a command has two parameters of
one name exactly when the generator gives a name twice, or one that is declared. A value that is
bound to the name then goes to the first of them, while its placeholder gets what the last one has.
-/
namespace StoreBridge
open Sql Store

namespace CommandTree

/-- The parameters of a generated command differ in name from each other and from the declared ones.
-/
structure Separate (tree : CommandTree) (generated : Command) : Prop where
  distinct : (generated.parameters.map (·.name)).Nodup
  undeclared : ∀ p ∈ generated.parameters, p.name ∉ tree.parameters.map (·.name)

end CommandTree

namespace Command

/-- Whenever the command is prepared, the leading placeholder of the name has this value. -/
def Delivers (c : Command) (name : String) (value : Value) : Prop :=
  ∀ store form p binding slot, c.prepare store form = .ok (p, binding) →
    Leads p.placeholders slot → slot.name = name →
      ∃ datum, value.datum form = .ok datum ∧ binding.lookup slot = some datum

section Sending
variable {c d : Command} {name : String} {value : Value} {store : Store} {form : DateTimeForm}
  {p : Prepared} {binding : Binding} {q : Parameter} {front behind : List Parameter}

/-- A value is given to a parameter in front, if there is one of the name. -/
theorem setValue_append (name : String) (value : Value) (front behind : List Parameter) :
    setValue name value (front ++ behind) =
      if name ∈ front.map (·.name) then setValue name value front ++ behind
      else front ++ setValue name value behind := by
  induction front with
  | nil => rfl
  | cons r front ih =>
    rw [List.cons_append, setValue, setValue, List.map_cons]
    by_cases here : r.name = name
    · rw [if_pos here, if_pos here, if_pos (here ▸ List.mem_cons_self)]
      rfl
    · rw [if_neg here, if_neg here, ih]
      have later : name ∈ r.name :: front.map (·.name) ↔ name ∈ front.map (·.name) := by
        rw [List.mem_cons, or_iff_right (Ne.symm here)]
      simp only [later]
      split <;> rfl

theorem bind_parameters (bound : c.bind name value = .ok d) :
    d.parameters = setValue name value c.parameters := by
  unfold bind at bound
  split at bound
  · cases bound
  · cases bound
    rfl

/-- The parameters of a command that is prepared are bound to the placeholders of its text. -/
theorem prepare_bindings (prepared : c.prepare store form = .ok (p, binding)) :
    bindings form p.placeholders c.parameters = .ok binding := by
  cases type : c.type with
  | storedProcedure =>
    unfold prepare at prepared
    rw [type] at prepared
    cases prepared
  | text =>
    rw [prepare_text type] at prepared
    obtain ⟨statement, -, prepared⟩ := bind_eq_ok prepared
    obtain ⟨bound, ended, prepared⟩ := bind_eq_ok prepared
    cases prepared
    exact ended

/-- Of the parameters of a name the last one that passes its value in is what is delivered. -/
theorem delivers_last (split : c.parameters = front ++ q :: behind)
    (passes : q.direction.acceptsInput = true)
    (last : ∀ r ∈ behind, r.direction.acceptsInput = true → r.name ≠ q.name) :
    c.Delivers q.name q.value := by
  intro store form p binding slot prepared leads same
  have goes : target? p.placeholders q = some slot :=
    target?_eq_some_iff.mpr ⟨leads, passes, same.symm⟩
  have unsent : ∀ r ∈ behind, target? p.placeholders r ≠ some slot := fun r among rival =>
    last r among (target?_eq_some_iff.mp rival).2.1 (name_of_target? goes rival)
  have sends : sender? p.placeholders c.parameters slot = some q := by
    rw [split]
    exact sender?_eq_some_last goes unsent
  exact lookup_of_sender? (prepare_bindings prepared) sends

/-- A value that is bound to a name is delivered if the parameter that is sent is the first one of
the name as well. Otherwise that parameter keeps its own value, and this is delivered instead. -/
theorem bind_delivers (bound : c.bind q.name value = .ok d)
    (split : c.parameters = front ++ q :: behind) (passes : q.direction.acceptsInput = true)
    (last : ∀ r ∈ behind, r.direction.acceptsInput = true → r.name ≠ q.name) :
    d.Delivers q.name (if q.name ∈ front.map (·.name) then q.value else value) := by
  have parameters := bind_parameters bound
  rw [split, setValue_append] at parameters
  by_cases earlier : q.name ∈ front.map (·.name)
  · rw [if_pos earlier] at parameters ⊢
    exact delivers_last parameters passes last
  · rw [if_neg earlier, setValue, if_pos rfl] at parameters
    rw [if_neg earlier]
    exact delivers_last (q := { q with value := value }) parameters passes last

/-- Where names differ, a value that is bound to the name of a parameter that passes it in is
delivered. -/
theorem bind_delivers_distinct (bound : c.bind q.name value = .ok d)
    (distinct : (c.parameters.map (·.name)).Nodup) (among : q ∈ c.parameters)
    (passes : q.direction.acceptsInput = true) : d.Delivers q.name value := by
  obtain ⟨front, behind, split⟩ := List.mem_iff_append.mp among
  rw [split, List.map_append, List.map_cons, List.nodup_append, List.nodup_cons] at distinct
  obtain ⟨-, ⟨lastName, -⟩, apart⟩ := distinct
  have first : q.name ∉ front.map (·.name) := fun earlier =>
    apart q.name earlier q.name List.mem_cons_self rfl
  have delivers := bind_delivers bound split passes fun r later _ same =>
    lastName (same ▸ List.mem_map_of_mem later)
  rwa [if_neg first] at delivers

end Sending
end Command

namespace CommandTree
open Declared

section Clashes
variable {generate : Generator} {form : DateTimeForm} {tree : CommandTree}

theorem standsFor_names {body : CommandBody} {declarations : List DeclaredParameter}
    {parameters : List Parameter} (stand : List.Forall₂ (StandsFor body) declarations parameters) :
    parameters.map (·.name) = declarations.map (·.name) := by
  induction stand with
  | nil => rfl
  | cons first rest ih =>
    rw [List.map_cons, List.map_cons, ih]
    cases first <;> rfl

/-- Nothing clashes with a generated command that has no parameters. -/
theorem separate_of_nil {generated : Command} (none : generated.parameters = []) :
    Separate tree generated := by
  refine ⟨?_, ?_⟩
  · rw [none]
    exact List.nodup_nil
  · rw [none]
    exact fun _ among => nomatch among

/-- Behind parameters for acceptable declarations, generated ones clash unless they are separate. -/
theorem nodup_names_iff {generated : Command} {parameters : List Parameter}
    (acceptable : Acceptable tree.parameters)
    (stand : List.Forall₂ (StandsFor tree.body) tree.parameters parameters) :
    ((parameters ++ generated.parameters).map (·.name)).Nodup ↔ Separate tree generated := by
  rw [List.map_append, standsFor_names stand, List.nodup_append]
  constructor
  · rintro ⟨-, distinct, apart⟩
    exact ⟨distinct, fun p among known => apart p.name known p.name (List.mem_map_of_mem among) rfl⟩
  · rintro ⟨distinct, undeclared⟩
    refine ⟨acceptable.distinct, distinct, ?_⟩
    rintro name known _ made rfl
    obtain ⟨p, among, rfl⟩ := List.mem_map.mp made
    exact undeclared p among known

/-- A compiled command has clashing names exactly when its generator made them. -/
theorem exists_clash_iff :
    (∃ c, tree.compile generate form = .ok c ∧ ¬(c.parameters.map (·.name)).Nodup) ↔
      ∃ generated, generate form tree = .ok generated ∧ Acceptable tree.parameters ∧
        tree.body.permitsGenerated = true ∧ ¬Separate tree generated := by
  constructor
  · rintro ⟨c, compiled, clash⟩
    obtain ⟨result, outcome⟩ := exists_outcome generate form tree
    rw [outcome.compile_eq] at compiled
    cases outcome with
    | @compiled generated parameters made acceptable permitted stand =>
      cases compiled
      have together := mt (nodup_names_iff acceptable stand).mpr clash
      refine ⟨generated, made, acceptable, ?_, together⟩
      -- Without parameters of its own there is nothing in the generated command to clash.
      rcases permitted with none | permits
      · exact absurd (separate_of_nil none) together
      · exact permits
    | _ => cases compiled
  · rintro ⟨generated, made, acceptable, permits, together⟩
    obtain ⟨parameters, stand⟩ := forall_standsFor tree.body tree.parameters
    exact ⟨_, (Outcome.compiled made acceptable (.inr permits) stand).compile_eq,
      mt (nodup_names_iff acceptable stand).mp together⟩

/-- A declared name that repeats is an invalid argument, whatever the generator has made. -/
theorem declared_clash {generated : Command} (made : generate form tree = .ok generated)
    (clash : ¬(tree.parameters.map (·.name)).Nodup) :
    ∃ failure, tree.compile generate form = .error failure ∧
      failure.category = .invalidArgument := by
  obtain ⟨result, outcome⟩ := exists_outcome generate form tree
  rw [outcome.compile_eq]
  cases outcome with
  | notGenerated failed => cases made.symm.trans failed
  | refused _ _ _ refused => exact ⟨_, rfl, refused_category refused⟩
  | notPermitted _ acceptable => exact absurd acceptable.distinct clash
  | compiled _ acceptable => exact absurd acceptable.distinct clash

end Clashes

/-- The generator of the store's own language makes separate parameters. -/
theorem separate_of_generate {form : DateTimeForm} {tree : CommandTree} {generated : Command}
    (made : StoreBridge.generate form tree = .ok generated) : Separate tree generated := by
  cases permits : tree.body.permitsGenerated with
  | false => exact separate_of_nil (Generation.generate_parameters made permits)
  | true =>
    have statement : tree.body.routine? = none := by
      cases body : tree.body with
      | function => rw [body] at permits; cases permits
      | _ => rfl
    obtain ⟨draft, rfl, said, after, grows⟩ := Generation.generate_drafted made statement
    exact ⟨grows.distinct, fun p among => (said.inTurn.made_free p among).1⟩

/-- Whatever the generator is, names clash in a compiled command exactly when the declarations are
acceptable, the body permits generated parameters, and these are not separate; a clash among the
declared names is an invalid argument. Where names differ, a value that is bound to the name of a
parameter that passes it in is delivered. Otherwise the last parameter of the name that passes its
value in is what counts, and unless it is the first of the name, it is delivered with its own. -/
theorem compile_clashes (generate : Generator) (form : DateTimeForm) (tree : CommandTree) :
    ((∃ c, tree.compile generate form = .ok c ∧ ¬(c.parameters.map (·.name)).Nodup) ↔
        ∃ generated, generate form tree = .ok generated ∧ Acceptable tree.parameters ∧
          tree.body.permitsGenerated = true ∧ ¬Separate tree generated) ∧
      (∀ generated, generate form tree = .ok generated → ¬(tree.parameters.map (·.name)).Nodup →
        ∃ failure, tree.compile generate form = .error failure ∧
          failure.category = .invalidArgument) ∧
      ∀ c, tree.compile generate form = .ok c → ∀ q value d, c.bind q.name value = .ok d →
        q.direction.acceptsInput = true →
          ((c.parameters.map (·.name)).Nodup → q ∈ c.parameters → d.Delivers q.name value) ∧
            ∀ front behind, c.parameters = front ++ q :: behind →
              (∀ r ∈ behind, r.direction.acceptsInput = true → r.name ≠ q.name) →
                d.Delivers q.name (if q.name ∈ front.map (·.name) then q.value else value) := by
  refine ⟨exists_clash_iff, fun _ => declared_clash, fun c _ q value d bound passes => ⟨?_, ?_⟩⟩
  · intro distinct among
    exact Command.bind_delivers_distinct bound distinct among passes
  · intro front behind split last
    exact Command.bind_delivers bound split passes last

/-- The generator gives its parameter a name that is declared: the value that is bound to the name
is not what is inserted. -/
theorem compile_keeps_clash :
    let answer : Generator := fun _ _ => .ok ⟨"INSERT INTO t (x) VALUES (@a)", .text,
      [.derived "a" (.ofKind .int64) .input (.integer 7)]⟩
    let tree : CommandTree := ⟨[⟨"a", .ofKind .int64⟩], .insert "t" []⟩
    let c (value : Value) : Command := ⟨"INSERT INTO t (x) VALUES (@a)", .text,
      [.derived "a" (.ofKind .int64) .input value,
        .derived "a" (.ofKind .int64) .input (.integer 7)]⟩
    tree.compile answer .iso8601 = .ok (c .null) ∧
      ¬((c .null).parameters.map (·.name)).Nodup ∧
      (c .null).bind "a" (.integer 5) = .ok (c (.integer 5)) ∧
      (Store.create ["CREATE TABLE t(x)"]).toOption.map (fun store =>
          (Command.query ((c (.integer 5)).run store .iso8601).2 .iso8601
            ⟨"SELECT x FROM t", .text, []⟩).1) =
        some (.ok ⟨["x"], [["7"]]⟩) := by
  decide +kernel

end CommandTree
end StoreBridge

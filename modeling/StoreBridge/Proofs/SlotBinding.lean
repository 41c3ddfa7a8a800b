import Mathlib.Data.List.Nodup
import StoreBridge.Command.Execution
import StoreBridge.Proofs.Deciding

/-! Which placeholders the parameters of a command are bound to, whatever the text of the command
is. A name is looked for under one sigil after the other, and the first placeholder that is found
leads: it gets the value of the last parameter of its name that passes values in, and no other
placeholder gets any. So where a name occurs under two sigils, only one of them is ever bound. -/
namespace StoreBridge
open Sql Store

/-- The place of a sigil in the order in which names are looked for. -/
def Sql.Sigil.rank : Sigil → Nat
  | atSign => 0
  | colon => 1
  | dollar => 2

theorem Sql.Sigil.rank_injective {a b : Sigil} (same : a.rank = b.rank) : a = b := by
  cases a <;> cases b <;> first | rfl | cases same

namespace Command

/-- Of the placeholders of its name this is the one whose sigil comes first. -/
structure Leads (placeholders : List Placeholder) (slot : Placeholder) : Prop where
  occurs : slot ∈ placeholders
  first : ∀ other ∈ placeholders, other.name = slot.name → slot.sigil.rank ≤ other.sigil.rank

/-- The placeholder that the value of a parameter goes to. -/
def target? (placeholders : List Placeholder) (q : Parameter) : Option Placeholder :=
  if q.direction.acceptsInput then slot? placeholders q.name else none

/-- The last of the parameters whose values go to a placeholder. -/
def sender? (placeholders : List Placeholder) (parameters : List Parameter) (slot : Placeholder) :
    Option Parameter :=
  parameters.reverse.find? fun q => target? placeholders q == some slot

section Slots
variable {placeholders : List Placeholder} {slot other : Placeholder} {name : String}

/-- The lookup is a choice between the three placeholders of the name. -/
theorem slot?_eq_ite (placeholders : List Placeholder) (name : String) :
    slot? placeholders name =
      if ⟨.atSign, name⟩ ∈ placeholders then some ⟨.atSign, name⟩
      else if ⟨.colon, name⟩ ∈ placeholders then some ⟨.colon, name⟩
      else if ⟨.dollar, name⟩ ∈ placeholders then some ⟨.dollar, name⟩
      else none := by
  simp only [slot?, Sigil.all, List.map_cons, List.map_nil, List.find?_cons, List.find?_nil,
    ← List.contains_iff_mem]
  cases placeholders.contains ⟨.atSign, name⟩ <;> cases placeholders.contains ⟨.colon, name⟩ <;>
    cases placeholders.contains ⟨.dollar, name⟩ <;> rfl

/-- Of one name only one placeholder leads. -/
theorem Leads.unique (leads : Leads placeholders slot) (rival : Leads placeholders other)
    (same : other.name = slot.name) : other = slot := by
  have ranks := Nat.le_antisymm (rival.first slot leads.occurs same.symm)
    (leads.first other rival.occurs same)
  obtain ⟨sigil, name⟩ := slot
  obtain ⟨_, _⟩ := other
  cases Sigil.rank_injective ranks
  cases same
  rfl

theorem leads_of_slot? (found : slot? placeholders name = some slot) :
    Leads placeholders slot ∧ slot.name = name := by
  have placed {other : Placeholder} (among : other ∈ placeholders) (same : other.name = name) :
      ⟨other.sigil, name⟩ ∈ placeholders := same ▸ among
  rw [slot?_eq_ite] at found
  split at found
  · rename_i here
    cases found
    exact ⟨⟨here, fun _ _ _ => Nat.zero_le _⟩, rfl⟩
  · rename_i noAtSign
    split at found
    · rename_i here
      cases found
      refine ⟨⟨here, fun other among same => ?_⟩, rfl⟩
      have occurs := placed among same
      cases sigil : other.sigil with
      | atSign => exact absurd (sigil ▸ occurs) noAtSign
      | colon => exact Nat.le_refl 1
      | dollar => exact Nat.le_succ 1
    · rename_i noColon
      split at found
      · rename_i here
        cases found
        refine ⟨⟨here, fun other among same => ?_⟩, rfl⟩
        have occurs := placed among same
        cases sigil : other.sigil with
        | atSign => exact absurd (sigil ▸ occurs) noAtSign
        | colon => exact absurd (sigil ▸ occurs) noColon
        | dollar => exact Nat.le_refl 2
      · cases found

theorem slot?_eq_none_iff :
    slot? placeholders name = none ↔ ∀ slot ∈ placeholders, slot.name ≠ name := by
  unfold slot?
  rw [List.find?_eq_none]
  constructor
  · rintro missing ⟨sigil, name⟩ among rfl
    refine missing ⟨sigil, name⟩ ?_ (List.contains_iff_mem.mpr among)
    exact List.mem_map_of_mem (by cases sigil <;> decide)
  · intro missing slot tried found
    obtain ⟨sigil, -, rfl⟩ := List.mem_map.mp tried
    exact missing _ (List.contains_iff_mem.mp found) rfl

/-- What is found for a name leads, and what leads is found. -/
theorem slot?_eq_some_iff :
    slot? placeholders name = some slot ↔ Leads placeholders slot ∧ slot.name = name := by
  refine ⟨leads_of_slot?, ?_⟩
  rintro ⟨leads, rfl⟩
  cases found : slot? placeholders slot.name with
  | none => exact absurd rfl (slot?_eq_none_iff.mp found slot leads.occurs)
  | some other =>
    obtain ⟨rival, same⟩ := leads_of_slot? found
    rw [leads.unique rival same]

theorem exists_leads (occurs : slot ∈ placeholders) :
    ∃ other, Leads placeholders other ∧ other.name = slot.name := by
  cases found : slot? placeholders slot.name with
  | none => exact absurd rfl (slot?_eq_none_iff.mp found slot occurs)
  | some other => exact ⟨other, leads_of_slot? found⟩

/-- The values of a parameter go to the leading placeholder of its name, if it passes any in. -/
theorem target?_eq_some_iff {q : Parameter} :
    target? placeholders q = some slot ↔
      Leads placeholders slot ∧ q.direction.acceptsInput = true ∧ q.name = slot.name := by
  unfold target?
  split
  · rename_i passes
    rw [slot?_eq_some_iff, passes, eq_comm (a := q.name)]
    exact and_congr_right fun _ => (and_iff_right rfl).symm
  · rename_i passes
    constructor
    · rintro ⟨⟩
    · rintro ⟨-, passes', -⟩
      exact absurd passes' passes

/-- Values for one placeholder come from parameters of one name. -/
theorem name_of_target? {q r : Parameter} (goes : target? placeholders q = some slot)
    (rival : target? placeholders r = some slot) : r.name = q.name := by
  rw [(target?_eq_some_iff.mp rival).2.2, (target?_eq_some_iff.mp goes).2.2]

end Slots

section Senders
variable {form : DateTimeForm} {placeholders : List Placeholder} {parameters : List Parameter}
  {binding : Binding} {slot : Placeholder} {q : Parameter}

/-- The text is prepared first, and then the parameters are bound to its placeholders. -/
theorem prepare_text {c : Command} (type : c.type = .text) (store : Store) (form : DateTimeForm) :
    c.prepare store form = (do
      let statement ← fromStore (store.prepare c.text)
      return (statement, ← bindings form statement.placeholders c.parameters)) := by
  unfold prepare
  rw [type]

/-- A parameter whose value goes nowhere is passed over. -/
theorem bindings_cons_passed (nowhere : target? placeholders q = none) (rest : List Parameter) :
    bindings form placeholders (q :: rest) = bindings form placeholders rest := by
  unfold target? at nowhere
  rw [bindings]
  split
  · rename_i passes
    rw [if_pos passes] at nowhere
    rw [nowhere]
  · rfl

/-- The value of another is sent behind those of the parameters that follow it. -/
theorem bindings_cons_sent (goes : target? placeholders q = some slot) (rest : List Parameter) :
    bindings form placeholders (q :: rest) = do
      let datum ← q.value.datum form
      return (← bindings form placeholders rest) ++ [(slot, datum)] := by
  obtain ⟨leads, passes, same⟩ := target?_eq_some_iff.mp goes
  rw [bindings, if_pos passes, slot?_eq_some_iff.mpr ⟨leads, same.symm⟩]

/-- Parameters are bound exactly when the values that go to placeholders can be sent. -/
theorem exists_bindings_iff :
    (∃ binding, bindings form placeholders parameters = .ok binding) ↔
      ∀ q ∈ parameters, ∀ slot, target? placeholders q = some slot →
        ∃ datum, q.value.datum form = .ok datum := by
  induction parameters with
  | nil => exact ⟨fun _ _ among => (nomatch among), fun _ => ⟨[], rfl⟩⟩
  | cons q rest ih =>
    rw [List.forall_mem_cons, ← ih]
    cases goes : target? placeholders q with
    | none =>
      rw [bindings_cons_passed goes]
      exact (and_iff_right fun _ never => nomatch never).symm
    | some slot =>
      rw [bindings_cons_sent goes]
      constructor
      · rintro ⟨binding, bound⟩
        obtain ⟨datum, sent, bound⟩ := bind_eq_ok bound
        obtain ⟨behind, others, -⟩ := bind_eq_ok bound
        exact ⟨fun _ _ => ⟨datum, sent⟩, behind, others⟩
      · rintro ⟨sends, behind, others⟩
        obtain ⟨datum, sent⟩ := sends slot rfl
        rw [sent, others]
        exact ⟨_, rfl⟩

/-- The parameters that follow come first. -/
theorem sender?_cons (q : Parameter) (rest : List Parameter) :
    sender? placeholders (q :: rest) slot =
      (sender? placeholders rest slot).or
        (if target? placeholders q = some slot then some q else none) := by
  unfold sender?
  rw [List.reverse_cons, List.find?_append, List.find?_singleton]
  simp only [beq_iff_eq]

/-- Each placeholder is given the value of the last parameter that sends it one. -/
theorem lookup_bindings (bound : bindings form placeholders parameters = .ok binding)
    (slot : Placeholder) :
    (sender? placeholders parameters slot).map (·.value.datum form) =
      (binding.lookup slot).map .ok := by
  induction parameters generalizing binding with
  | nil =>
    cases bound
    rfl
  | cons q rest ih =>
    rw [sender?_cons]
    cases goes : target? placeholders q with
    | none =>
      rw [bindings_cons_passed goes] at bound
      rw [if_neg (by simp), Option.or_none]
      exact ih bound
    | some target =>
      rw [bindings_cons_sent goes] at bound
      obtain ⟨datum, sent, bound⟩ := bind_eq_ok bound
      obtain ⟨behind, others, bound⟩ := bind_eq_ok bound
      cases bound
      rw [Option.map_or, ih others, List.lookup_append, Option.map_or]
      congr 1
      by_cases here : slot = target
      · rw [here, if_pos rfl, List.lookup_cons_self]
        exact congrArg some sent
      · have other : List.lookup slot [(target, datum)] = none :=
          List.lookup_eq_none_iff.mpr (by simpa using here)
        rw [if_neg fun same => here (Option.some.inj same).symm, other]
        rfl

/-- What is sent to a placeholder is its value. -/
theorem lookup_of_sender? (bound : bindings form placeholders parameters = .ok binding)
    (sends : sender? placeholders parameters slot = some q) :
    ∃ datum, q.value.datum form = .ok datum ∧ binding.lookup slot = some datum := by
  have found := lookup_bindings bound slot
  rw [sends, Option.map_some, eq_comm, Option.map_eq_some_iff] at found
  obtain ⟨datum, here, sent⟩ := found
  exact ⟨datum, sent.symm, here⟩

/-- Of several parameters that send a placeholder their values, the last one counts. -/
theorem sender?_eq_some_last {front behind : List Parameter}
    (goes : target? placeholders q = some slot)
    (last : ∀ r ∈ behind, target? placeholders r ≠ some slot) :
    sender? placeholders (front ++ q :: behind) slot = some q := by
  unfold sender?
  rw [List.find?_eq_some_iff_append]
  refine ⟨by simp [goes], behind.reverse, front.reverse, by simp, fun r among => ?_⟩
  simpa using last r (List.mem_reverse.mp among)

/-- Where names differ, there is only one parameter that sends a placeholder its value. -/
theorem sender?_eq_some_iff (distinct : (parameters.map (·.name)).Nodup) :
    sender? placeholders parameters slot = some q ↔
      q ∈ parameters ∧ target? placeholders q = some slot := by
  have goes {r : Parameter} (sends : sender? placeholders parameters slot = some r) :
      r ∈ parameters ∧ target? placeholders r = some slot :=
    ⟨List.mem_reverse.mp (List.mem_of_find?_eq_some sends), by simpa using List.find?_some sends⟩
  refine ⟨goes, fun ⟨among, target⟩ => ?_⟩
  cases sends : sender? placeholders parameters slot with
  | none =>
    have never := List.find?_eq_none.mp sends q (List.mem_reverse.mpr among)
    simp [target] at never
  | some r =>
    obtain ⟨here, rival⟩ := goes sends
    rw [List.inj_on_of_nodup_map distinct here among (name_of_target? target rival)]

/-- Where names differ, no placeholder is given two values. -/
theorem keys_nodup (distinct : (parameters.map (·.name)).Nodup)
    (bound : bindings form placeholders parameters = .ok binding) :
    (binding.map (·.1)).Nodup := by
  induction parameters generalizing binding with
  | nil =>
    cases bound
    exact List.nodup_nil
  | cons q rest ih =>
    rw [List.map_cons, List.nodup_cons] at distinct
    cases goes : target? placeholders q with
    | none =>
      rw [bindings_cons_passed goes] at bound
      exact ih distinct.2 bound
    | some slot =>
      rw [bindings_cons_sent goes] at bound
      obtain ⟨datum, -, bound⟩ := bind_eq_ok bound
      obtain ⟨behind, others, bound⟩ := bind_eq_ok bound
      cases bound
      -- A name that was sent to the placeholder before would be the name of this parameter.
      have fresh : slot ∉ behind.map (·.1) := by
        intro known
        obtain ⟨b, among, rfl⟩ := List.mem_map.mp known
        have found := lookup_bindings others b.1
        cases sends : sender? placeholders rest b.1 with
        | none =>
          rw [sends, Option.map_none, eq_comm, Option.map_eq_none_iff, List.lookup_eq_none_iff]
            at found
          simpa using found b among
        | some r =>
          obtain ⟨here, rival⟩ := (sender?_eq_some_iff distinct.2).mp sends
          exact distinct.1 (name_of_target? goes rival ▸ List.mem_map_of_mem here)
      rw [List.map_append, List.nodup_append]
      refine ⟨ih distinct.2 others, List.nodup_singleton slot, fun other known last own same => ?_⟩
      cases List.mem_singleton.mp own
      cases same
      exact fresh known

/-- Where names differ, a placeholder that a parameter sends its value to has this value. -/
theorem exists_lookup (distinct : (parameters.map (·.name)).Nodup)
    (bound : bindings form placeholders parameters = .ok binding) (among : q ∈ parameters)
    (goes : target? placeholders q = some slot) :
    ∃ datum, q.value.datum form = .ok datum ∧ binding.lookup slot = some datum :=
  lookup_of_sender? bound ((sender?_eq_some_iff distinct).mpr ⟨among, goes⟩)

/-- A placeholder has no other value than that of a parameter that sends it one. -/
theorem exists_target (distinct : (parameters.map (·.name)).Nodup)
    (bound : bindings form placeholders parameters = .ok binding) {datum : Datum}
    (here : binding.lookup slot = some datum) :
    ∃ q ∈ parameters, target? placeholders q = some slot ∧ q.value.datum form = .ok datum := by
  have found := lookup_bindings bound slot
  rw [here, Option.map_some, Option.map_eq_some_iff] at found
  obtain ⟨q, sends, sent⟩ := found
  obtain ⟨among, goes⟩ := (sender?_eq_some_iff distinct).mp sends
  exact ⟨q, among, goes, sent⟩

end Senders

/-- Where the names of parameters differ, a placeholder has a value exactly when it leads and has
the name of a parameter that passes a value in, and then it has this value, once. A placeholder that
does not lead is null. So the placeholders of the parameters that pass values in all have their
values exactly when none of these parameters has two placeholders. -/
theorem bindings_leading {form : DateTimeForm} {placeholders : List Placeholder}
    {parameters : List Parameter} {binding : Binding}
    (distinct : (parameters.map (·.name)).Nodup)
    (bound : bindings form placeholders parameters = .ok binding) :
    (binding.map (·.1)).Nodup ∧
      (∀ slot datum, binding.lookup slot = some datum ↔
        Leads placeholders slot ∧ ∃ q ∈ parameters, q.direction.acceptsInput = true ∧
          q.name = slot.name ∧ q.value.datum form = .ok datum) ∧
      (∀ (request : Request) (slot : Placeholder), ¬Leads placeholders slot →
        request.valueOf binding (.named slot) = .null) ∧
      ((∀ slot ∈ placeholders, ∀ q ∈ parameters, q.direction.acceptsInput = true →
          q.name = slot.name →
            ∃ datum, q.value.datum form = .ok datum ∧ binding.lookup slot = some datum) ↔
        ∀ q ∈ parameters, q.direction.acceptsInput = true →
          ∀ slot ∈ placeholders, ∀ other ∈ placeholders,
            slot.name = q.name → other.name = q.name → slot = other) := by
  have values (slot : Placeholder) (datum : Datum) : binding.lookup slot = some datum ↔
      Leads placeholders slot ∧ ∃ q ∈ parameters, q.direction.acceptsInput = true ∧
        q.name = slot.name ∧ q.value.datum form = .ok datum := by
    constructor
    · intro here
      obtain ⟨q, among, goes, sent⟩ := exists_target distinct bound here
      obtain ⟨leads, passes, same⟩ := target?_eq_some_iff.mp goes
      exact ⟨leads, q, among, passes, same, sent⟩
    · rintro ⟨leads, q, among, passes, same, sent⟩
      obtain ⟨other, sent', here⟩ :=
        exists_lookup distinct bound among (target?_eq_some_iff.mpr ⟨leads, passes, same⟩)
      cases sent.symm.trans sent'
      exact here
  refine ⟨keys_nodup distinct bound, values, fun request slot behind => ?_, ?_, ?_⟩
  · have unbound : binding.lookup slot = none :=
      Option.eq_none_iff_forall_ne_some.mpr fun datum here => behind ((values slot datum).mp here).1
    rw [Request.valueOf, unbound]
    rfl
  · intro all q among passes slot occurs other occurs' same same'
    obtain ⟨datum, -, here⟩ := all slot occurs q among passes same.symm
    obtain ⟨datum', -, here'⟩ := all other occurs' q among passes same'.symm
    exact ((values other datum').mp here').1.unique ((values slot datum).mp here).1
      (same.trans same'.symm)
  · intro single slot occurs q among passes same
    obtain ⟨other, leads, name⟩ := exists_leads occurs
    have only := single q among passes slot occurs other leads.occurs same.symm
      (name.trans same.symm)
    subst only
    exact exists_lookup distinct bound among (target?_eq_some_iff.mpr ⟨leads, passes, same⟩)

/-- Of four placeholders two have values, and the one behind another of its name is null. -/
theorem bindings_leading_some :
    let parameters : List Parameter :=
      [.derived "a" (.ofKind .int64) .input (.integer 7),
        .derived "b" (.ofKind .string) .inputOutput (.text "x"),
        .derived "c" (.ofKind .int32) .output (.integer 1)]
    let placeholders : List Placeholder :=
      [⟨.dollar, "b"⟩, ⟨.atSign, "a"⟩, ⟨.colon, "b"⟩, ⟨.atSign, "c"⟩]
    let binding : Binding := [(⟨.colon, "b"⟩, .text "x"), (⟨.atSign, "a"⟩, .integer 7)]
    (parameters.map (·.name)).Nodup ∧
      bindings .ticks placeholders parameters = .ok binding ∧
      (∀ slot datum, binding.lookup slot = some datum ↔
        Leads placeholders slot ∧ ∃ q ∈ parameters, q.direction.acceptsInput = true ∧
          q.name = slot.name ∧ q.value.datum .ticks = .ok datum) ∧
      ∀ request : Request, request.valueOf binding (.named ⟨.dollar, "b"⟩) = .null := by
  intro parameters placeholders binding
  have distinct : (parameters.map (·.name)).Nodup := by decide +kernel
  have bound : bindings .ticks placeholders parameters = .ok binding := by decide +kernel
  obtain ⟨-, values, others, -⟩ := bindings_leading distinct bound
  have behind : ¬Leads placeholders ⟨.dollar, "b"⟩ := fun leads =>
    absurd (leads.first ⟨.colon, "b"⟩ (by decide +kernel) rfl) (by decide)
  exact ⟨distinct, bound, values, fun request => others request _ behind⟩

/-- A statement with two placeholders of one parameter gets its value for the first, and null for
the other. -/
theorem bindings_skip_second_sigil :
    let a : Parameter := .derived "a" (.ofKind .int64) .input (.integer 7)
    let placeholders : List Placeholder := [⟨.atSign, "a"⟩, ⟨.colon, "a"⟩]
    bindings .iso8601 placeholders [a] = .ok [(⟨.atSign, "a"⟩, .integer 7)] ∧
      a.value.datum .iso8601 = .ok (.integer 7) ∧
      ¬(∀ slot ∈ placeholders, a.name = slot.name →
        List.lookup slot [(⟨.atSign, "a"⟩, Datum.integer 7)] = some (.integer 7)) ∧
      (query {} .iso8601 ⟨"SELECT @a, :a", .text, [a]⟩).1 =
        .ok ⟨["@a", ":a"], [["7", "NULL"]]⟩ := by
  decide +kernel

end Command
end StoreBridge

import StoreBridge.Proofs.CompiledParameters
import StoreBridge.Proofs.SlotBinding
import StoreBridge.Proofs.StatementRequest

/-! Binding the placeholders of compiled commands. A command that was compiled for a tree without a
routine, and whose parameters have been given values since, is prepared by sending each placeholder
that occurs in its text the value of the one parameter of that name, or it is not run at all. What
the text does not mention is not looked at. -/
namespace StoreBridge
open Text Sql Store

namespace Command

/-- A parameter without its value. -/
def unvalued (q : Parameter) : Parameter :=
  { q with value := .null }

/-- Two commands differ in nothing but the values of their parameters. -/
structure SameButValues (c d : Command) : Prop where
  text : d.text = c.text
  type : d.type = c.type
  parameters : d.parameters.map unvalued = c.parameters.map unvalued

/-- Gives parameters values, one after the other. -/
def bindAll (c : Command) (binds : List (String × Value)) : Except Failure Command :=
  binds.foldlM (fun c (name, value) => c.bind name value) c

section Values
variable {c d : Command}

theorem SameButValues.refl (c : Command) : SameButValues c c :=
  ⟨rfl, rfl, rfl⟩

theorem SameButValues.trans {e : Command} (first : SameButValues c d) (second : SameButValues d e) :
    SameButValues c e :=
  ⟨second.text.trans first.text, second.type.trans first.type,
    second.parameters.trans first.parameters⟩

theorem setValue_unvalued (name : String) (value : Value) (parameters : List Parameter) :
    (setValue name value parameters).map unvalued = parameters.map unvalued := by
  induction parameters with
  | nil => rfl
  | cons q rest ih =>
    by_cases here : q.name = name
    · simp [setValue, here, unvalued]
    · simp [setValue, here, ih]

theorem bind_sameButValues {name : String} {value : Value} (bound : c.bind name value = .ok d) :
    SameButValues c d := by
  unfold bind at bound
  split at bound
  · cases bound
  · cases bound
    exact ⟨rfl, rfl, setValue_unvalued name value c.parameters⟩

/-- However many values are bound, nothing but values changes. -/
theorem bindAll_sameButValues {binds : List (String × Value)} (bound : c.bindAll binds = .ok d) :
    SameButValues c d := by
  induction binds generalizing c with
  | nil =>
    cases bound
    exact .refl _
  | cons b binds ih =>
    obtain ⟨between, first, rest⟩ := bind_eq_ok bound
    exact (bind_sameButValues first).trans (ih rest)

/-- Each parameter has its counterpart. -/
theorem SameButValues.exists_counterpart (same : SameButValues c d) {q : Parameter}
    (among : q ∈ d.parameters) : ∃ r ∈ c.parameters, unvalued r = unvalued q := by
  have here := List.mem_map_of_mem (f := unvalued) among
  rw [same.parameters] at here
  exact List.mem_map.mp here

theorem SameButValues.names (same : SameButValues c d) :
    d.parameters.map (·.name) = c.parameters.map (·.name) := by
  have names := congrArg (List.map (·.name)) same.parameters
  rwa [List.map_map, List.map_map] at names

end Values

/-- A parameter that a placeholder has the name of. -/
def isMentioned (placeholders : List Placeholder) (q : Parameter) : Bool :=
  placeholders.contains ⟨.atSign, q.name⟩

/-- What is sent for a parameter. -/
def Sends (form : DateTimeForm) (q : Parameter) (sent : Placeholder × Datum) : Prop :=
  sent.1 = ⟨.atSign, q.name⟩ ∧ q.value.datum form = .ok sent.2

section Slots
variable {placeholders : List Placeholder} {form : DateTimeForm}

theorem slot?_eq (sigils : ∀ p ∈ placeholders, p.sigil = .atSign) (name : String) :
    slot? placeholders name =
      if placeholders.contains ⟨.atSign, name⟩ then some ⟨.atSign, name⟩ else none := by
  have other (sigil : Sigil) (different : sigil ≠ .atSign) : ⟨sigil, name⟩ ∉ placeholders :=
    fun among => different (sigils _ among)
  rw [slot?_eq_ite, if_neg (other .colon (by decide)), if_neg (other .dollar (by decide))]
  simp only [List.contains_iff_mem]

/-- The value of a parameter goes to the placeholder of its name, if it is mentioned. -/
theorem target?_eq (sigils : ∀ p ∈ placeholders, p.sigil = .atSign) {q : Parameter}
    (input : q.direction = .input) :
    target? placeholders q =
      if isMentioned placeholders q then some ⟨.atSign, q.name⟩ else none := by
  rw [target?, input, slot?_eq sigils]
  rfl

theorem target?_mentioned (sigils : ∀ p ∈ placeholders, p.sigil = .atSign) {q : Parameter}
    (input : q.direction = .input) (mentioned : isMentioned placeholders q = true) :
    target? placeholders q = some ⟨.atSign, q.name⟩ := by
  rw [target?_eq sigils input, if_pos mentioned]

/-- A parameter that is not mentioned is passed over, whatever its value is. -/
theorem bindings_cons_other (sigils : ∀ p ∈ placeholders, p.sigil = .atSign) {q : Parameter}
    (other : isMentioned placeholders q = false) (rest : List Parameter) :
    bindings form placeholders (q :: rest) = bindings form placeholders rest := by
  have none : slot? placeholders q.name = none := by
    rw [slot?_eq sigils, if_neg]
    simpa [isMentioned] using other
  refine bindings_cons_passed ?_ rest
  rw [target?, none, ite_self]

/-- The value of one that is mentioned is sent to the placeholder of its name. -/
theorem bindings_cons_mentioned (sigils : ∀ p ∈ placeholders, p.sigil = .atSign) {q : Parameter}
    (input : q.direction = .input) (mentioned : isMentioned placeholders q = true)
    (rest : List Parameter) :
    bindings form placeholders (q :: rest) = do
      let datum ← q.value.datum form
      return (← bindings form placeholders rest) ++ [(⟨.atSign, q.name⟩, datum)] :=
  bindings_cons_sent (target?_mentioned sigils input mentioned) rest

theorem bindings_filter (sigils : ∀ p ∈ placeholders, p.sigil = .atSign)
    {parameters : List Parameter} (input : ∀ q ∈ parameters, q.direction = .input) :
    bindings form placeholders (parameters.filter (isMentioned placeholders)) =
      bindings form placeholders parameters := by
  induction parameters with
  | nil => rfl
  | cons q rest ih =>
    have others := ih fun r among => input r (List.mem_cons_of_mem q among)
    cases mentioned : isMentioned placeholders q with
    | true =>
      have passes := input q List.mem_cons_self
      rw [List.filter_cons_of_pos mentioned, bindings_cons_mentioned sigils passes mentioned,
        bindings_cons_mentioned sigils passes mentioned, others]
    | false =>
      rw [List.filter_cons_of_neg (by simp [mentioned]), others,
        bindings_cons_other sigils mentioned]

/-- The bindings are what is sent for the parameters that are mentioned, from the last to the first.
-/
theorem bindings_eq_ok (sigils : ∀ p ∈ placeholders, p.sigil = .atSign)
    {parameters : List Parameter} (input : ∀ q ∈ parameters, q.direction = .input)
    {binding : Binding} :
    bindings form placeholders parameters = .ok binding ↔
      List.Forall₂ (Sends form) (parameters.filter (isMentioned placeholders)) binding.reverse := by
  induction parameters generalizing binding with
  | nil =>
    rw [List.filter_nil, List.forall₂_nil_left_iff, List.reverse_eq_nil_iff]
    constructor
    · rintro ⟨⟩
      rfl
    · rintro rfl
      rfl
  | cons q rest ih =>
    have later : ∀ r ∈ rest, r.direction = .input :=
      fun r among => input r (List.mem_cons_of_mem q among)
    cases mentioned : isMentioned placeholders q with
    | false =>
      rw [List.filter_cons_of_neg (by simp [mentioned]), bindings_cons_other sigils mentioned]
      exact ih later
    | true =>
      rw [List.filter_cons_of_pos mentioned,
        bindings_cons_mentioned sigils (input q List.mem_cons_self) mentioned]
      constructor
      · intro ended
        obtain ⟨datum, sent, ended⟩ := bind_eq_ok ended
        obtain ⟨behind, bound, ended⟩ := bind_eq_ok ended
        cases ended
        rw [List.reverse_append]
        exact .cons ⟨rfl, sent⟩ ((ih later).mp bound)
      · intro inTurn
        -- The first parameter's value stands at the end of the bindings.
        cases split : binding.reverse with
        | nil =>
          rw [split] at inTurn
          cases inTurn
        | cons b behind =>
          rw [split] at inTurn
          obtain ⟨⟨slot, sent⟩, inTurn⟩ := List.forall₂_cons.mp inTurn
          have bound : bindings form placeholders rest = .ok behind.reverse :=
            (ih later).mpr (by rwa [List.reverse_reverse])
          have parts : binding = behind.reverse ++ [b] := by
            rw [← List.reverse_reverse binding, split, List.reverse_cons]
          rw [sent, bound, parts, ← slot]
          rfl

/-- What is sent goes to the placeholders of the parameters in turn. -/
theorem keys_of_sends {parameters : List Parameter} {sent : Binding}
    (inTurn : List.Forall₂ (Sends form) parameters sent) :
    sent.map (·.1) = parameters.map fun q => ⟨.atSign, q.name⟩ := by
  induction inTurn with
  | nil => rfl
  | cons first rest ih => rw [List.map_cons, List.map_cons, ih, first.1]

/-- Parameters are bound exactly when the values of those that are mentioned can be sent. -/
theorem bindings_isOk (sigils : ∀ p ∈ placeholders, p.sigil = .atSign)
    {parameters : List Parameter} (input : ∀ q ∈ parameters, q.direction = .input) :
    (∃ binding, bindings form placeholders parameters = .ok binding) ↔
      ∀ q ∈ parameters, isMentioned placeholders q = true →
        ∃ datum, q.value.datum form = .ok datum := by
  rw [exists_bindings_iff]
  refine forall₂_congr fun q among => ?_
  rw [target?_eq sigils (input q among)]
  cases isMentioned placeholders q <;> simp

end Slots

/-- The statement that a command has the text of, and what its parameters are to that. -/
structure Speaks (c : Command) (s : Statement) : Prop where
  type : c.type = .text
  text : c.text = s.text
  readable : s.Readable
  input : ∀ q ∈ c.parameters, q.direction = .input
  distinct : (c.parameters.map (·.name)).Nodup
  known : ∀ p ∈ s.placeholders, p.sigil = .atSign ∧ p.name ∈ c.parameters.map (·.name)

/-- The placeholders of a command's text are bound each once, to the value of the only parameter of
that name. -/
structure Binds (form : DateTimeForm) (c : Command) (binding : Binding) : Prop where
  once : (binding.map (·.1)).Nodup
  all : ∀ slot, slot ∈ binding.map (·.1) ↔ slot ∈ placeholdersIn c.text
  value : ∀ slot ∈ placeholdersIn c.text, slot.sigil = .atSign ∧ ∃ q datum,
    c.parameters.filter (·.name == slot.name) = [q] ∧ q.value.datum form = .ok datum ∧
      binding.lookup slot = some datum

section Spoken
variable {c d : Command} {s : Statement} {store : Store} {form : DateTimeForm}

theorem Speaks.keep (speaks : Speaks c s) (same : SameButValues c d) : Speaks d s where
  type := same.type.trans speaks.type
  text := same.text.trans speaks.text
  readable := speaks.readable
  input := by
    intro q among
    obtain ⟨r, here, counterpart⟩ := same.exists_counterpart among
    have direction : r.direction = q.direction := congrArg (·.direction) counterpart
    rw [← direction, speaks.input r here]
  distinct := same.names ▸ speaks.distinct
  known := same.names ▸ speaks.known

theorem Speaks.placeholdersIn_eq (speaks : Speaks c s) : placeholdersIn c.text = s.placeholders := by
  rw [speaks.text, placeholdersIn_text speaks.readable]

/-- A name that is given once has one parameter. -/
theorem filter_name {parameters : List Parameter} (distinct : (parameters.map (·.name)).Nodup)
    {q : Parameter} (among : q ∈ parameters) :
    parameters.filter (·.name == q.name) = [q] := by
  induction parameters with
  | nil => cases among
  | cons r rest ih =>
    rw [List.map_cons, List.nodup_cons] at distinct
    rcases List.mem_cons.mp among with rfl | behind
    · have others : rest.filter (·.name == q.name) = [] := by
        refine List.filter_eq_nil_iff.mpr fun r later same => distinct.1 ?_
        exact List.mem_map.mpr ⟨r, later, by simpa using same⟩
      rw [List.filter_cons_of_pos (by simp), others]
    · have other : r.name ≠ q.name := fun same =>
        distinct.1 (List.mem_map.mpr ⟨q, behind, same.symm⟩)
      rw [List.filter_cons_of_neg (by simpa using other), ih distinct.2 behind]

/-- A placeholder of the statement has a parameter of its name, which is mentioned. -/
theorem Speaks.exists_parameter (speaks : Speaks c s) {slot : Placeholder}
    (among : slot ∈ s.placeholders) :
    ∃ q ∈ c.parameters, slot = ⟨.atSign, q.name⟩ ∧ isMentioned s.placeholders q = true := by
  obtain ⟨sigil, named⟩ := speaks.known slot among
  obtain ⟨q, here, name⟩ := List.mem_map.mp named
  have slotEq : slot = ⟨.atSign, q.name⟩ := by
    rw [← sigil, name]
  exact ⟨q, here, slotEq, List.contains_iff_mem.mpr (slotEq ▸ among)⟩

theorem Speaks.sigils (speaks : Speaks c s) : ∀ p ∈ s.placeholders, p.sigil = .atSign :=
  fun p among => (speaks.known p among).1

/-- The values that the parameters of a command supply are bound each once. -/
theorem Speaks.binds (speaks : Speaks c s) {binding : Binding}
    (bound : bindings form s.placeholders c.parameters = .ok binding) : Binds form c binding := by
  have inTurn := (bindings_eq_ok speaks.sigils speaks.input).mp bound
  have keys := keys_of_sends inTurn
  rw [List.map_reverse] at keys
  refine ⟨keys_nodup speaks.distinct bound, fun slot => ?_, fun slot among => ?_⟩
  · rw [speaks.placeholdersIn_eq, ← List.mem_reverse, keys]
    constructor
    · intro among
      obtain ⟨q, here, rfl⟩ := List.mem_map.mp among
      exact List.contains_iff_mem.mp (List.mem_filter.mp here).2
    · intro among
      obtain ⟨q, here, rfl, mentioned⟩ := speaks.exists_parameter among
      exact List.mem_map.mpr ⟨q, List.mem_filter.mpr ⟨here, mentioned⟩, rfl⟩
  · rw [speaks.placeholdersIn_eq] at among
    obtain ⟨q, here, rfl, mentioned⟩ := speaks.exists_parameter among
    have goes := target?_mentioned speaks.sigils (speaks.input q here) mentioned
    obtain ⟨datum, sent, found⟩ := exists_lookup speaks.distinct bound here goes
    exact ⟨rfl, q, datum, filter_name speaks.distinct here, sent, found⟩

/-- A text that is prepared has the placeholders that occur in it. -/
theorem Speaks.prepared (speaks : Speaks c s) {p : Prepared}
    (prepared : store.prepare c.text = .ok p) : p.placeholders = s.placeholders := by
  unfold Store.prepare at prepared
  split at prepared
  · cases prepared
  · rename_i request read
    rw [speaks.text] at read
    have asked := placeholders_ofText? speaks.readable read
    cases planned : plan store.tables request.instruction with
    | error fault =>
      rw [planned] at prepared
      cases prepared
    | ok plan =>
      rw [planned] at prepared
      cases prepared
      exact asked.trans (placeholdersIn_text speaks.readable)

/-- Where the text of a command is prepared, all depends on the bindings. -/
theorem Speaks.prepare_eq (speaks : Speaks c s) {p : Prepared}
    (prepared : store.prepare c.text = .ok p) :
    c.prepare store form = (bindings form s.placeholders c.parameters).map fun b => (p, b) := by
  rw [prepare_text speaks.type, prepared]
  show (bindings form p.placeholders c.parameters >>= _) = _
  rw [speaks.prepared prepared]
  cases bindings form s.placeholders c.parameters <;> rfl

theorem Speaks.prepare_refused (speaks : Speaks c s) {fault : StoreFault}
    (refused : store.prepare c.text = .error fault) :
    c.prepare store form = .error (.store fault) := by
  rw [prepare_text speaks.type, refused]
  rfl

/-- The command is not run, or it is run with all of its placeholders bound. -/
theorem Speaks.run_binds (speaks : Speaks c s) (store : Store) (form : DateTimeForm) :
    (∃ failure, c.prepare store form = .error failure ∧
        c.run store form = (.error failure, store)) ∨
      ∃ p binding, c.prepare store form = .ok (p, binding) ∧
        p.placeholders = placeholdersIn c.text ∧ Binds form c binding ∧
        c.run store form = (fromStore (store.run binding p).1, (store.run binding p).2) := by
  cases ended : c.prepare store form with
  | error failure =>
    refine .inl ⟨failure, rfl, ?_⟩
    rw [run, ended]
  | ok result =>
    obtain ⟨p, binding⟩ := result
    refine .inr ⟨p, binding, rfl, ?_⟩
    cases prepared : store.prepare c.text with
    | error fault =>
      rw [speaks.prepare_refused prepared] at ended
      cases ended
    | ok p' =>
      rw [speaks.prepare_eq prepared] at ended
      obtain ⟨b, bound, pair⟩ := map_eq_ok ended
      cases pair
      refine ⟨?_, speaks.binds bound, ?_⟩
      · rw [speaks.prepared prepared, speaks.placeholdersIn_eq]
      · rw [run, speaks.prepare_eq prepared, bound]
        rfl

/-- Parameters that are not mentioned can be left out. -/
theorem Speaks.filter (speaks : Speaks c s) :
    Speaks { c with parameters := c.parameters.filter (isMentioned s.placeholders) } s where
  type := speaks.type
  text := speaks.text
  readable := speaks.readable
  input := fun q among => speaks.input q (List.mem_filter.mp among).1
  distinct := speaks.distinct.sublist (List.filter_sublist.map _)
  known := by
    intro p among
    obtain ⟨q, here, rfl, mentioned⟩ := speaks.exists_parameter among
    exact ⟨rfl, List.mem_map.mpr ⟨q, List.mem_filter.mpr ⟨here, mentioned⟩, rfl⟩⟩

theorem Speaks.prepare_filter (speaks : Speaks c s) (store : Store) (form : DateTimeForm) :
    prepare store form
        { c with parameters := c.parameters.filter (isMentioned (placeholdersIn c.text)) } =
      c.prepare store form := by
  rw [speaks.placeholdersIn_eq]
  have others := speaks.filter
  cases prepared : store.prepare c.text with
  | error fault => rw [others.prepare_refused prepared, speaks.prepare_refused prepared]
  | ok p =>
    rw [others.prepare_eq prepared, speaks.prepare_eq prepared]
    show (bindings form s.placeholders (c.parameters.filter _)).map _ = _
    rw [bindings_filter speaks.sigils speaks.input]

/-- A command is prepared exactly when its text is and the values that are asked for can be sent. -/
theorem Speaks.prepare_isOk (speaks : Speaks c s) (store : Store) (form : DateTimeForm) :
    (∃ result, c.prepare store form = .ok result) ↔
      (∃ p, store.prepare c.text = .ok p) ∧
        ∀ q ∈ c.parameters, isMentioned (placeholdersIn c.text) q = true →
          ∃ datum, q.value.datum form = .ok datum := by
  rw [speaks.placeholdersIn_eq, ← bindings_isOk speaks.sigils speaks.input]
  cases prepared : store.prepare c.text with
  | error fault =>
    rw [speaks.prepare_refused prepared]
    simp
  | ok p =>
    rw [speaks.prepare_eq prepared]
    constructor
    · rintro ⟨result, ended⟩
      obtain ⟨binding, bound, -⟩ := map_eq_ok ended
      exact ⟨⟨p, rfl⟩, binding, bound⟩
    · rintro ⟨-, binding, bound⟩
      rw [bound]
      exact ⟨_, rfl⟩

end Spoken
end Command

namespace Generation

/-- The parameters that are made pass values in. -/
theorem InTurn.made_input {declared : List String} {style : ConstantStyle}
    {operands : List Operand} {terms : List Sql.Term} {made : List Parameter}
    (inTurn : InTurn (Spelled declared style) operands terms made) :
    ∀ p ∈ made, p.direction = .input := by
  induction inTurn with
  | nil => exact fun _ among => nomatch among
  | cons first rest ih =>
    intro p among
    rcases List.mem_append.mp among with here | later
    · cases first with
      | own =>
        rw [List.mem_singleton.mp here]
        rfl
      | _ => cases here
    · exact ih p later

end Generation

namespace CommandTree

/-- A compiled command speaks a statement. -/
theorem exists_speaks {form : DateTimeForm} {tree : CommandTree} {c : Command}
    (compiled : tree.compile generate form = .ok c) (statement : tree.body.routine? = none) :
    ∃ s, c.Speaks s := by
  obtain ⟨generated, parameters, made, declared, -, rfl⟩ := compile_ok compiled
  obtain ⟨draft, rfl, said, after, grows⟩ := Generation.generate_drafted made statement
  rw [statement] at declared
  obtain ⟨rfl, distinct, -, -⟩ := declaredAll_ok declared
  have inTurn := said.inTurn
  have free := inTurn.made_free
  have names : (tree.parameters.map (·.input) ++ draft.made).map (·.name) =
      tree.parameters.map (·.name) ++ draft.made.map (·.name) := by
    simp [DeclaredParameter.input, Parameter.derived]
  refine ⟨draft.statement, rfl, rfl, said.readable, ?_, ?_, ?_⟩
  · intro q among
    rcases List.mem_append.mp among with declared | made
    · obtain ⟨d, -, rfl⟩ := List.mem_map.mp declared
      rfl
    · exact inTurn.made_input q made
  · show ((tree.parameters.map (·.input) ++ draft.made).map (·.name)).Nodup
    rw [names, List.nodup_append]
    refine ⟨distinct, grows.distinct, ?_⟩
    intro name known other made same
    obtain ⟨p, among, rfl⟩ := List.mem_map.mp made
    exact (free p among).1 (same ▸ known)
  · intro p among
    show p.sigil = .atSign ∧ p.name ∈ (tree.parameters.map (·.input) ++ draft.made).map (·.name)
    rw [placeholders_eq, List.mem_eraseDups] at among
    obtain ⟨t, here, found⟩ := List.mem_filterMap.mp among
    rw [names]
    cases t with
    | literal => cases found
    | placeholder =>
      cases found
      exact inTurn.placeholder_mem here

/-- However values have been bound since a tree without a routine was compiled, the command is
either not run at all, or with each placeholder of its text bound once, to the value of the only
parameter of that name. Parameters that the text does not mention play no part in it, and a text
that is prepared is run if the values of the others can be sent. -/
theorem compile_binds_placeholders {form : DateTimeForm} {tree : CommandTree} {c d : Command}
    {binds : List (String × Value)} (compiled : tree.compile generate form = .ok c)
    (statement : tree.body.routine? = none) (bound : c.bindAll binds = .ok d) (store : Store)
    (format : DateTimeForm) :
    ((∃ failure, d.prepare store format = .error failure ∧
        d.run store format = (.error failure, store)) ∨
      ∃ p binding, d.prepare store format = .ok (p, binding) ∧
        p.placeholders = placeholdersIn d.text ∧ d.Binds format binding ∧
        d.run store format = (Command.fromStore (store.run binding p).1, (store.run binding p).2)) ∧
      Command.prepare store format
          { d with
            parameters := d.parameters.filter (Command.isMentioned (placeholdersIn d.text)) } =
        d.prepare store format ∧
      ((∃ result, d.prepare store format = .ok result) ↔
        (∃ p, store.prepare d.text = .ok p) ∧
          ∀ q ∈ d.parameters, Command.isMentioned (placeholdersIn d.text) q = true →
            ∃ datum, q.value.datum format = .ok datum) := by
  obtain ⟨s, speaks⟩ := exists_speaks compiled statement
  have still := speaks.keep (Command.bindAll_sameButValues bound)
  exact ⟨still.run_binds store format, still.prepare_filter store format, still.prepare_isOk store format⟩

/-- The value of the parameter that is not mentioned could not be sent. -/
theorem compile_binds_placeholders_unmentioned :
    let late : DateTime := ⟨262142, 12, 31, 23, 59, 59, 0, by decide⟩
    let tree : CommandTree := ⟨[⟨"x", .ofKind .int32⟩, ⟨"late", .ofKind .dateTime⟩],
      .insert "t" [⟨"a", .parameter "x"⟩, ⟨"b", .constant (.integer 7) (.ofKind .int64)⟩]⟩
    let c (x late : Value) : Command := ⟨"INSERT INTO \"t\" (\"a\", \"b\") VALUES (@x, @p0)", .text,
      [.derived "x" (.ofKind .int32) .input x, .derived "late" (.ofKind .dateTime) .input late,
        .derived "p0" (.ofKind .int64) .input (.integer 7)]⟩
    let binds := [("x", .integer 4), ("late", .dateTime late), ("x", .integer 5)]
    let d := c (.integer 5) (.dateTime late)
    tree.compile generate .iso8601 = .ok (c .null .null) ∧ tree.body.routine? = none ∧
      (c .null .null).bindAll binds = .ok d ∧ late.ticks.isOk = false ∧
      ∃ store p binding, Store.create ["CREATE TABLE t(a, b)"] = .ok store ∧
        d.prepare store .ticks = .ok (p, binding) ∧ d.Binds .ticks binding := by
  intro late tree c binds d
  have compiled : tree.compile generate .iso8601 = .ok (c .null .null) := by decide +kernel
  have bound : (c .null .null).bindAll binds = .ok d := by decide +kernel
  have runs : ((Store.create ["CREATE TABLE t(a, b)"]).toOption.any
      fun store => (d.prepare store .ticks).isOk) = true := by decide +kernel
  refine ⟨compiled, rfl, bound, by decide +kernel, ?_⟩
  cases created : Store.create ["CREATE TABLE t(a, b)"] with
  | error fault =>
    rw [created] at runs
    cases runs
  | ok store =>
    rw [created] at runs
    obtain ⟨either, -, -⟩ := compile_binds_placeholders compiled rfl bound store .ticks
    rcases either with ⟨failure, failed, -⟩ | ⟨p, binding, prepared, -, binds, -⟩
    · replace runs : (d.prepare store .ticks).isOk = true := runs
      rw [failed] at runs
      cases runs
    · exact ⟨store, p, binding, rfl, prepared, binds⟩

end CommandTree
end StoreBridge

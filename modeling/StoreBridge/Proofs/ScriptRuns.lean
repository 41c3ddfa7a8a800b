import StoreBridge.Command.Generation
import StoreBridge.Command.Script
import StoreBridge.Proofs.SlotBinding
import StoreBridge.Proofs.TickCounting

/-! Steps of scripts that fail before anything is run. What the store itself reports has a category
of its own; a failure of any other arises at one of five stages, the last of them in the middle of
binding, and at none of them the store has been changed yet. So the steps behind go on as if the
step that failed had not been there, however long the script is. -/
namespace StoreBridge
open Sql Store

/-- Date/times are all that cannot be sent, and only as ticks. -/
theorem Value.datum_eq_error_iff {form : DateTimeForm} {v : Value} {failure : Failure} :
    v.datum form = .error failure ↔
      form = .ticks ∧ ∃ t, v = .dateTime t ∧ t.ticks = .error failure := by
  cases v with
  | dateTime t =>
    cases form with
    | iso8601 => simp [datum]
    | ticks =>
      have sent : (dateTime t).datum .ticks = t.ticks.map .integer := rfl
      rw [sent]
      cases counted : t.ticks <;> simp [Except.map, counted]
  | _ => simp [datum]

theorem DateTime.ticks_eq_error_iff {t : DateTime} {failure : Failure} :
    t.ticks = .error failure ↔
      ¬ InRange (10 * t.microseconds) ∧ failure = .ticksOverflow (t.fullText ' ') := by
  rw [ticks_eq]
  split
  · rename_i inside
    simp [inside]
  · rename_i outside
    simp [outside, eq_comm]

namespace Command

/-! ### Preparing -/

/-- The first of the values sent to placeholders that cannot be sent is a date/time, with more ticks
than can be counted. -/
inductive Overflows (placeholders : List Placeholder) : List Parameter → DateTime → Prop where
  | here {q : Parameter} {rest : List Parameter} {slot : Placeholder} {t : DateTime}
      (goes : target? placeholders q = some slot) (value : q.value = .dateTime t)
      (uncounted : ¬ InRange (10 * t.microseconds)) : Overflows placeholders (q :: rest) t
  | later {q : Parameter} {rest : List Parameter} {t : DateTime}
      (sent : ∀ slot, target? placeholders q = some slot →
        ∃ datum, q.value.datum .ticks = .ok datum)
      (behind : Overflows placeholders rest t) : Overflows placeholders (q :: rest) t

section Preparing
variable {form : DateTimeForm} {placeholders : List Placeholder} {parameters : List Parameter}
  {store : Store} {c : Command} {failure : Failure} {t : DateTime}

theorem Overflows.bindings_eq (overflows : Overflows placeholders parameters t) :
    bindings .ticks placeholders parameters = .error (.ticksOverflow (t.fullText ' ')) := by
  induction overflows with
  | here goes value uncounted =>
    have unsent := Value.datum_eq_error_iff.mpr
      ⟨rfl, _, value, DateTime.ticks_eq_error_iff.mpr ⟨uncounted, rfl⟩⟩
    rw [bindings_cons_sent goes, unsent]
    rfl
  | @later q rest t sent behind ih =>
    cases goes : target? placeholders q with
    | none => rw [bindings_cons_passed goes, ih]
    | some slot =>
      obtain ⟨datum, sent⟩ := sent slot goes
      rw [bindings_cons_sent goes, sent, ih]
      rfl

/-- Binding fails only at a value that cannot be counted in ticks. -/
theorem exists_overflows (failed : bindings form placeholders parameters = .error failure) :
    form = .ticks ∧
      ∃ t, Overflows placeholders parameters t ∧ failure = .ticksOverflow (t.fullText ' ') := by
  induction parameters with
  | nil => cases failed
  | cons q rest ih =>
    cases goes : target? placeholders q with
    | none =>
      rw [bindings_cons_passed goes] at failed
      obtain ⟨ticks, t, behind, overflow⟩ := ih failed
      exact ⟨ticks, t, .later (fun slot never => nomatch goes.symm.trans never) behind, overflow⟩
    | some slot =>
      rw [bindings_cons_sent goes] at failed
      rcases bind_eq_error failed with unsent | ⟨datum, sent, failed⟩
      · obtain ⟨ticks, t, value, uncounted⟩ := Value.datum_eq_error_iff.mp unsent
        obtain ⟨uncounted, overflow⟩ := DateTime.ticks_eq_error_iff.mp uncounted
        exact ⟨ticks, t, .here goes value uncounted, overflow⟩
      · rcases bind_eq_error failed with failed | ⟨_, _, never⟩
        · obtain ⟨ticks, t, behind, overflow⟩ := ih failed
          rw [ticks] at sent
          exact ⟨ticks, t, .later (fun _ _ => ⟨datum, sent⟩) behind, overflow⟩
        · cases never

/-- What the store reports has the category of the store. -/
theorem category_of_fromStore {α : Type} {x : Except StoreFault α}
    (failed : fromStore x = .error failure) : failure.category = .database := by
  cases x with
  | ok a => cases failed
  | error fault =>
    cases failed
    rfl

theorem ok_of_fromStore {α : Type} {x : Except StoreFault α} {a : α}
    (ended : fromStore x = .ok a) : x = .ok a := by
  cases x with
  | ok b =>
    cases ended
    rfl
  | error fault => cases ended

/-- A command is refused before it is run: it is one that the store cannot run at all, or it sends a
date/time that has too many ticks. -/
inductive Unprepared (store : Store) (form : DateTimeForm) (c : Command) : Failure → Prop where
  | procedure (type : c.type = .storedProcedure) :
      Unprepared store form c (.storedProcedure c.text)
  | overflow {statement : Prepared} {t : DateTime} (type : c.type = .text) (ticks : form = .ticks)
      (prepared : store.prepare c.text = .ok statement)
      (overflows : Overflows statement.placeholders c.parameters t) :
      Unprepared store form c (.ticksOverflow (t.fullText ' '))

theorem Unprepared.prepare_eq (unprepared : Unprepared store form c failure) :
    c.prepare store form = .error failure := by
  cases unprepared with
  | procedure type =>
    unfold prepare
    rw [type]
  | overflow type ticks prepared overflows =>
    rw [prepare_text type, prepared, ticks]
    show (bindings .ticks _ _ >>= _) = _
    rw [overflows.bindings_eq]
    rfl

theorem unprepared_of_prepare (failed : c.prepare store form = .error failure)
    (outside : failure.category ≠ .database) : Unprepared store form c failure := by
  cases type : c.type with
  | storedProcedure =>
    unfold prepare at failed
    rw [type] at failed
    cases failed
    exact .procedure type
  | text =>
    rw [prepare_text type] at failed
    rcases bind_eq_error failed with refused | ⟨statement, prepared, failed⟩
    · exact absurd (category_of_fromStore refused) outside
    · rcases bind_eq_error failed with unbound | ⟨_, _, never⟩
      · replace prepared : fromStore (store.prepare c.text) = .ok statement := prepared
        obtain ⟨ticks, t, overflows, rfl⟩ := exists_overflows unbound
        exact .overflow type ticks (ok_of_fromStore prepared) overflows
      · cases never

/-- Once a command is prepared, nothing but the store can fail. -/
theorem unprepared_of_run (failed : (c.run store form).1 = .error failure)
    (outside : failure.category ≠ .database) : Unprepared store form c failure := by
  unfold run at failed
  cases prepared : c.prepare store form with
  | error first =>
    rw [prepared] at failed
    cases failed
    exact unprepared_of_prepare prepared outside
  | ok ready =>
    rw [prepared] at failed
    exact absurd (category_of_fromStore failed) outside

theorem Unprepared.run_eq (unprepared : Unprepared store form c failure) :
    c.run store form = (.error failure, store) := by
  rw [run, unprepared.prepare_eq]

end Preparing

end Command

namespace Script
variable {generate : Generator} {form : DateTimeForm} {store : Store} {failure : Failure}

/-! ### Assigning -/

/-- An assignment fails behind those that were made: its value cannot be read, or no parameter has
its name. -/
inductive Unassigned : Command → List Assignment → Failure → Prop where
  | unread {c : Command} {a : Assignment} {rest : List Assignment}
      (unread : Value.ofDocument? .strict a.value = none) : Unassigned c (a :: rest) .badJson
  | unknown {c : Command} {a : Assignment} {rest : List Assignment} {value : Value}
      (read : Value.ofDocument? .strict a.value = some value)
      (unknown : ∀ q ∈ c.parameters, q.name ≠ a.name) :
      Unassigned c (a :: rest) (.unknownParameter a.name)
  | later {c d : Command} {a : Assignment} {rest : List Assignment} {value : Value}
      {failure : Failure} (read : Value.ofDocument? .strict a.value = some value)
      (bound : c.bind a.name value = .ok d) (behind : Unassigned d rest failure) :
      Unassigned c (a :: rest) failure

theorem decode_eq_ok_iff {α : Type} {read : Document → Option α} {d : Document} {a : α} :
    decode read d = .ok a ↔ read d = some a := by
  unfold decode
  cases read d <;> simp

theorem decode_eq_error_iff {α : Type} {read : Document → Option α} {d : Document} :
    decode read d = .error failure ↔ read d = none ∧ failure = .badJson := by
  unfold decode
  cases read d <;> simp [eq_comm]

/-- A value is refused exactly if no parameter has the name. -/
theorem bind_eq_error_iff {c : Command} {name : String} {value : Value} :
    c.bind name value = .error failure ↔
      (∀ q ∈ c.parameters, q.name ≠ name) ∧ failure = .unknownParameter name := by
  have unknown : c.parameter? name = none ↔ ∀ q ∈ c.parameters, q.name ≠ name := by
    simp [Command.parameter?]
  rw [← unknown]
  unfold Command.bind
  cases c.parameter? name <;> simp [eq_comm]

theorem assign_eq_error_iff {c : Command} {assignments : List Assignment} :
    assign c assignments = .error failure ↔ Unassigned c assignments failure := by
  constructor
  · intro failed
    induction assignments generalizing c with
    | nil => cases failed
    | cons a rest ih =>
      rcases bind_eq_error failed with undecoded | ⟨value, decoded, failed⟩
      · obtain ⟨unread, rfl⟩ := decode_eq_error_iff.mp undecoded
        exact .unread unread
      · have read := decode_eq_ok_iff.mp decoded
        rcases bind_eq_error failed with unbound | ⟨d, bound, failed⟩
        · obtain ⟨unknown, rfl⟩ := bind_eq_error_iff.mp unbound
          exact .unknown read unknown
        · exact .later read bound (ih failed)
  · intro unassigned
    induction unassigned with
    | unread unread =>
      rw [assign, decode_eq_error_iff.mpr ⟨unread, rfl⟩]
      rfl
    | unknown read unknown =>
      rw [assign, decode_eq_ok_iff.mpr read]
      show (Command.bind _ _ _ >>= _) = _
      rw [bind_eq_error_iff.mpr ⟨unknown, rfl⟩]
      rfl
    | later read bound behind ih =>
      rw [assign, decode_eq_ok_iff.mpr read]
      show (Command.bind _ _ _ >>= _) = _
      rw [bound]
      exact ih

/-! ### One step -/

/-- A step is refused before anything is run. -/
inductive Refused (generate : Generator) (form : DateTimeForm) (store : Store) (s : Step) :
    Failure → Prop where
  /-- The tree cannot be read. -/
  | unread (unread : CommandTree.ofDocument? .strict s.tree = none) :
      Refused generate form store s .badJson
  /-- The tree is not compiled. -/
  | uncompiled {tree : CommandTree} {failure : Failure}
      (read : CommandTree.ofDocument? .strict s.tree = some tree)
      (failed : tree.compile generate form = .error failure) : Refused generate form store s failure
  /-- A parameter is not given its value. -/
  | unassigned {tree : CommandTree} {c : Command} {failure : Failure}
      (read : CommandTree.ofDocument? .strict s.tree = some tree)
      (compiled : tree.compile generate form = .ok c)
      (unassigned : Unassigned c s.assignments failure) : Refused generate form store s failure
  /-- The store cannot run the command, or cannot be sent a value. -/
  | unprepared {c : Command} {failure : Failure} (made : s.command generate form = .ok c)
      (unprepared : c.Unprepared store form failure) : Refused generate form store s failure

section Step
variable {s : Step}

/-- What is read as a tree is compiled, and the parameters of the command are given values. -/
theorem command_read {tree : CommandTree}
    (read : CommandTree.ofDocument? .strict s.tree = some tree) :
    s.command generate form = (do assign (← tree.compile generate form) s.assignments) := by
  rw [Step.command, decode_eq_ok_iff.mpr read]
  rfl

/-- In either way a command that is not prepared is not run. -/
theorem Mode.run_eq {c : Command} (unprepared : c.Unprepared store form failure) (mode : Mode) :
    mode.run store form c = (.error failure, store) := by
  cases mode with
  | query =>
    rw [Mode.run, Command.query, unprepared.run_eq]
    rfl
  | execute =>
    rw [Mode.run, Command.execute, unprepared.run_eq]
    rfl

/-- What either way of running adds is a failure of the store. -/
theorem Mode.unprepared_of_run {c : Command} {mode : Mode}
    (failed : (mode.run store form c).1 = .error failure)
    (outside : failure.category ≠ .database) : c.Unprepared store form failure := by
  apply Command.unprepared_of_run _ outside
  cases mode with
  | query => exact map_eq_error (map_eq_error failed)
  | execute =>
    rcases bind_eq_error (map_eq_error failed) with unanswered | ⟨answer, -, failed⟩
    · exact unanswered
    · split at failed
      · cases failed
      · cases failed
        exact absurd rfl outside

/-- A command that is not made or not prepared is not run. -/
theorem Refused.run_eq (refused : Refused generate form store s failure) :
    s.run generate form store = (.error failure, store) := by
  have unmade {first : Failure} (failed : s.command generate form = .error first) :
      s.run generate form store = (.error first, store) := by
    rw [Step.run, failed]
  cases refused with
  | unread unread =>
    apply unmade
    rw [Step.command, decode_eq_error_iff.mpr ⟨unread, rfl⟩]
    rfl
  | uncompiled read failed =>
    apply unmade
    rw [command_read read, failed]
    rfl
  | unassigned read compiled unassigned =>
    apply unmade
    rw [command_read read, compiled]
    exact assign_eq_error_iff.mpr unassigned
  | unprepared made unprepared =>
    rw [Step.run, made]
    exact Mode.run_eq unprepared s.mode

theorem refused_of_run (failed : (s.run generate form store).1 = .error failure)
    (outside : failure.category ≠ .database) : Refused generate form store s failure := by
  cases made : s.command generate form with
  | error first =>
    rw [Step.run, made] at failed
    cases failed
    rcases bind_eq_error made with undecoded | ⟨tree, decoded, made⟩
    · obtain ⟨unread, rfl⟩ := decode_eq_error_iff.mp undecoded
      exact .unread unread
    · have read := decode_eq_ok_iff.mp decoded
      rcases bind_eq_error made with failed | ⟨c, compiled, made⟩
      · exact .uncompiled read failed
      · exact .unassigned read compiled (assign_eq_error_iff.mp made)
  | ok c =>
    rw [Step.run, made] at failed
    exact .unprepared made (Mode.unprepared_of_run failed outside)

end Step

/-! ### Whole scripts -/

/-- The store after so many steps of a script. -/
def storeAt (generate : Generator) (form : DateTimeForm) (store : Store) (script : List Step)
    (i : Nat) : Store :=
  (run generate form store (script.take i)).2

/-- A step of a script is refused, the store is the same behind it as in front of it, and without
the step all others answer the same and leave the same store. -/
structure LeavesNoTrace (generate : Generator) (form : DateTimeForm) (store : Store)
    (script : List Step) (i : Nat) (failure : Failure) : Prop where
  refused : ∃ s, script[i]? = some s ∧
    Refused generate form (storeAt generate form store script i) s failure
  kept : storeAt generate form store script (i + 1) = storeAt generate form store script i
  others : run generate form store (script.eraseIdx i) =
    ((run generate form store script).1.eraseIdx i, (run generate form store script).2)

section Scripts
variable {script : List Step} {i : Nat} {s : Step}

/-- The first step runs on the store, and the others on what it leaves. -/
theorem run_cons (s : Step) (rest : List Step) :
    run generate form store (s :: rest) =
      ((s.run generate form store).1 ::
        (run generate form (s.run generate form store).2 rest).1,
          (run generate form (s.run generate form store).2 rest).2) :=
  rfl

/-- The answer at a place is that of its step, on the store that the steps before it leave. -/
theorem run_getElem? (generate : Generator) (form : DateTimeForm) (store : Store)
    (script : List Step) (i : Nat) :
    (run generate form store script).1[i]? =
      script[i]?.map fun s => (s.run generate form (storeAt generate form store script i)).1 := by
  induction script generalizing store i with
  | nil => rfl
  | cons s rest ih =>
    cases i with
    | zero => rfl
    | succ i =>
      rw [run_cons, List.getElem?_cons_succ, List.getElem?_cons_succ, ih]
      rfl

/-- One more step leads from the store in front of it to the store behind it. -/
theorem storeAt_succ (here : script[i]? = some s) :
    storeAt generate form store script (i + 1) =
      (s.run generate form (storeAt generate form store script i)).2 := by
  induction script generalizing store i with
  | nil => cases here
  | cons first rest ih =>
    cases i with
    | zero =>
      cases here
      rfl
    | succ i => exact ih here

/-- A step behind which the store is as it was makes no difference to the others. -/
theorem run_eraseIdx (here : script[i]? = some s)
    (kept : (s.run generate form (storeAt generate form store script i)).2 =
      storeAt generate form store script i) :
    run generate form store (script.eraseIdx i) =
      ((run generate form store script).1.eraseIdx i, (run generate form store script).2) := by
  induction script generalizing store i with
  | nil => cases here
  | cons first rest ih =>
    cases i with
    | zero =>
      cases here
      replace kept : (s.run generate form store).2 = store := kept
      rw [List.eraseIdx_cons_zero, run_cons, kept]
      rfl
    | succ i =>
      have behind := @ih (first.run generate form store).2 i here kept
      rw [List.eraseIdx_cons_succ, run_cons, run_cons, behind]
      rfl

/-- Apart from failures of the store, a step fails exactly if it is refused. -/
theorem run_failed_iff (outside : failure.category ≠ .database) :
    (run generate form store script).1[i]? = some (.error failure) ↔
      ∃ s, script[i]? = some s ∧
        Refused generate form (storeAt generate form store script i) s failure := by
  rw [run_getElem?, Option.map_eq_some_iff]
  constructor
  · rintro ⟨s, here, failed⟩
    exact ⟨s, here, refused_of_run failed outside⟩
  · rintro ⟨s, here, refused⟩
    exact ⟨s, here, congrArg Prod.fst refused.run_eq⟩

/-- A step that answers with a failure which is not one of the store leaves no trace: it is refused
before anything is run, and neither the store nor any other answer depends on it. -/
theorem leavesNoTrace_of_failure
    (failed : (run generate form store script).1[i]? = some (.error failure))
    (outside : failure.category ≠ .database) :
    LeavesNoTrace generate form store script i failure := by
  obtain ⟨s, here, refused⟩ := (run_failed_iff outside).mp failed
  have unchanged : (s.run generate form (storeAt generate form store script i)).2 =
      storeAt generate form store script i := by rw [refused.run_eq]
  exact {
    refused := ⟨s, here, refused⟩
    kept := (storeAt_succ here).trans unchanged
    others := run_eraseIdx here unchanged }

/-- The second of three steps cannot send its date/time, which has too many ticks. The third one
reads what the first one has written, as it would without the second. -/
theorem leavesNoTrace_of_failure_overflow :
    let tree (text : String) : Document := (CommandTree.mk [⟨"at", .ofKind .dateTime⟩]
      (.function { name := "f", commandText := some text })).toDocument
    let late : DateTime := ⟨29229, 1, 1, 0, 0, 0, 0, by decide⟩
    let change : String := "INSERT INTO t (a) VALUES (@at)"
    let script : List Step := [⟨tree change, [⟨"at", .text "null"⟩], .execute⟩,
      ⟨tree change, [⟨"at", (Value.dateTime late).toDocument⟩], .execute⟩,
      ⟨tree "SELECT a FROM t", [], .query⟩]
    let written : Except Failure Answer := .ok (.changed 1)
    let overflow : Failure := .ticksOverflow "+29229-01-01 00:00:00"
    let shown : Except Failure Answer := .ok (.result ⟨["a"], [["NULL"]]⟩)
    overflow.category ≠ .database ∧ ∃ store, Store.create ["CREATE TABLE t(a)"] = .ok store ∧
      (run StoreBridge.generate .ticks store script).1 = [written, .error overflow, shown] ∧
      (run StoreBridge.generate .ticks store (script.eraseIdx 1)).1 = [written, shown] := by
  intro tree late change script written overflow shown
  have outside : overflow.category ≠ .database := by decide
  have answers : (Store.create ["CREATE TABLE t(a)"]).toOption.any (fun store =>
      (run StoreBridge.generate .ticks store script).1 = [written, .error overflow, shown]) := by
    decide +kernel
  refine ⟨outside, ?_⟩
  cases created : Store.create ["CREATE TABLE t(a)"] with
  | error fault =>
    rw [created] at answers
    cases answers
  | ok store =>
    rw [created] at answers
    replace answers := of_decide_eq_true answers
    have failed : (run StoreBridge.generate .ticks store script).1[1]? =
        some (.error overflow) := by
      rw [answers]
      rfl
    have trace := leavesNoTrace_of_failure failed outside
    refine ⟨store, rfl, answers, ?_⟩
    rw [trace.others, answers]
    rfl

end Scripts

end Script
end StoreBridge

import StoreBridge.Failure

/-! Steps that may fail, one after another. A run that ends well went well at each step, and one
that fails does so at its first failing step. A check is decided by a condition where it fails
exactly without it, and the conditions of checks that follow one another add up. -/
namespace StoreBridge

theorem bind_eq_ok {α β : Type} {x : Except Failure α} {f : α → Except Failure β} {b : β}
    (ended : (x >>= f) = .ok b) : ∃ a, x = .ok a ∧ f a = .ok b := by
  cases x with
  | error failure => cases ended
  | ok a => exact ⟨a, rfl, ended⟩

theorem bind_eq_error {α β : Type} {x : Except Failure α} {f : α → Except Failure β}
    {failure : Failure} (failed : (x >>= f) = .error failure) :
    x = .error failure ∨ ∃ a, x = .ok a ∧ f a = .error failure := by
  cases x with
  | error first => exact .inl (congrArg Except.error (Except.error.inj failed))
  | ok a => exact .inr ⟨a, rfl, failed⟩

theorem map_eq_ok {α β : Type} {x : Except Failure α} {f : α → β} {b : β}
    (ended : x.map f = .ok b) : ∃ a, x = .ok a ∧ f a = b := by
  cases x with
  | error failure => cases ended
  | ok a =>
    cases ended
    exact ⟨a, rfl, rfl⟩

/-- What is made of a result cannot fail. -/
theorem map_eq_error {α β : Type} {x : Except Failure α} {f : α → β} {failure : Failure}
    (failed : x.map f = .error failure) : x = .error failure := by
  cases x with
  | error first => exact congrArg Except.error (Except.error.inj failed)
  | ok a => cases failed

/-- A check is decided by a condition: it comes to a result where the condition holds, and to an
invalid argument where it does not. -/
inductive DecidedBy (condition : Prop) {α : Type} : Except Failure α → Prop where
  | met (holds : condition) (result : α) : DecidedBy condition (.ok result)
  | unmet (fails : ¬condition) {failure : Failure}
      (invalid : failure.category = .invalidArgument) : DecidedBy condition (.error failure)

namespace DecidedBy
variable {condition other : Prop} {α β : Type} {check : Except Failure α}

theorem of_iff (decided : DecidedBy condition check) (same : condition ↔ other) :
    DecidedBy other check := by
  cases decided with
  | met holds result => exact .met (same.mp holds) result
  | unmet fails invalid => exact .unmet (mt same.mpr fails) invalid

/-- Of two checks that follow one another both conditions have to hold. -/
theorem bind {next : α → Except Failure β} (decided : DecidedBy condition check)
    (later : ∀ result, check = .ok result → DecidedBy other (next result)) :
    DecidedBy (condition ∧ other) (check >>= next) := by
  cases decided with
  | met holds result => exact (later result rfl).of_iff (and_iff_right holds).symm
  | unmet fails invalid => exact .unmet (fun both => fails both.1) invalid

theorem map (decided : DecidedBy condition check) (f : α → β) :
    DecidedBy condition (check.map f) := by
  cases decided with
  | met holds result => exact .met holds (f result)
  | unmet fails invalid => exact .unmet fails invalid

/-- What cannot fail after a check leaves its condition as it is. -/
theorem last {next : α → Except Failure β} (decided : DecidedBy condition check)
    (sure : ∀ result, ∃ made, next result = .ok made) : DecidedBy condition (check >>= next) := by
  refine (decided.bind fun result _ => ?_).of_iff (and_iff_left trivial)
  obtain ⟨made, succeeds⟩ := sure result
  rw [succeeds]
  exact .met trivial made

/-- The elements of a list are checked one after another. -/
theorem mapM {condition : α → Prop} {check : α → Except Failure β}
    (decided : ∀ a, DecidedBy (condition a) (check a)) (as : List α) :
    DecidedBy (∀ a ∈ as, condition a) (as.mapM check) := by
  induction as with
  | nil => exact .met (fun _ among => nomatch among) []
  | cons a as ih =>
    rw [List.mapM_cons, List.forall_mem_cons]
    exact (decided a).bind fun b _ => ih.last fun bs => ⟨b :: bs, rfl⟩

theorem isOk_iff (decided : DecidedBy condition check) :
    (∃ result, check = .ok result) ↔ condition := by
  cases decided with
  | met holds result => exact ⟨fun _ => holds, fun _ => ⟨result, rfl⟩⟩
  | unmet fails invalid =>
    constructor
    · rintro ⟨_, never⟩
      cases never
    · intro holds
      exact absurd holds fails

theorem category (decided : DecidedBy condition check) {failure : Failure}
    (failed : check = .error failure) : failure.category = .invalidArgument := by
  cases decided with
  | met => cases failed
  | unmet _ invalid =>
    cases failed
    exact invalid

end DecidedBy

end StoreBridge

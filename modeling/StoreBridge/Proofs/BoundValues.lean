import StoreBridge.Proofs.PlaceholderBinding

/-! Runs of calls that bind values. A call gives the first parameter of its name a value, or it
fails and leaves the command as it was. Since no call changes a name, it is settled before a run
which of its calls succeed. After the run the first parameter of each name has the value of the last
call for it that succeeded, and nothing else has changed; so calls for different names can change
places, and calls that fail can be left out. -/
namespace StoreBridge.Command

/-- What a call answers, and the command after it. -/
def attempt (c : Command) (call : String × Value) : Except Failure Unit × Command :=
  match c.bind call.1 call.2 with
  | .ok bound => (.ok (), bound)
  | .error failure => (.error failure, c)

/-- What calls answer, one after the other, and the command after all of them. -/
def attemptAll : Command → List (String × Value) → List (Except Failure Unit) × Command
  | c, [] => ([], c)
  | c, call :: later =>
    let (answer, between) := c.attempt call
    let (answers, after) := between.attemptAll later
    (answer :: answers, after)

/-- The calls of a run that succeed. -/
def accepted : Command → List (String × Value) → List (String × Value)
  | _, [] => []
  | c, call :: later =>
    match c.bind call.1 call.2 with
    | .ok bound => call :: bound.accepted later
    | .error _ => c.accepted later

/-- What calls make of a parameter behind others with these names: the first of its name is given
the last value for the name, if there is any. -/
def settled (calls : List (String × Value)) (earlier : List String) (p : Parameter) : Parameter :=
  if p.name ∈ earlier then p else { p with value := (calls.reverse.lookup p.name).getD p.value }

/-- What calls make of a list of parameters. -/
def settledAll (calls : List (String × Value)) (parameters : List Parameter) : List Parameter :=
  parameters.mapIdx fun i p => settled calls ((parameters.map (·.name)).take i) p

section Setting
variable {name : String} {value : Value} {parameters : List Parameter}

/-- A name that no parameter has changes nothing. -/
theorem setValue_unknown (unknown : ∀ p ∈ parameters, p.name ≠ name) :
    setValue name value parameters = parameters := by
  induction parameters with
  | nil => rfl
  | cons p rest ih =>
    rw [setValue, if_neg (unknown p List.mem_cons_self),
      ih fun q among => unknown q (List.mem_cons_of_mem p among)]

/-- Values for different names can be given in any order. -/
theorem setValue_comm {other : String} (different : name ≠ other) (value last : Value)
    (parameters : List Parameter) :
    setValue other last (setValue name value parameters) =
      setValue name value (setValue other last parameters) := by
  induction parameters with
  | nil => rfl
  | cons p rest ih =>
    by_cases here : p.name = name
    · have elsewhere : p.name ≠ other := fun same => different (here ▸ same)
      simp only [setValue, if_pos here, if_neg elsewhere]
    · by_cases there : p.name = other
      · simp only [setValue, if_neg here, if_pos there]
      · simp only [setValue, if_neg here, if_neg there, ih]

/-- Behind another of its name a parameter is left alone. -/
theorem settled_seen {calls : List (String × Value)} {earlier : List String} {p : Parameter}
    (seen : p.name ∈ earlier) : settled calls earlier p = p :=
  if_pos seen

theorem settled_first {calls : List (String × Value)} {earlier : List String} {p : Parameter}
    (first : p.name ∉ earlier) :
    settled calls earlier p = { p with value := (calls.reverse.lookup p.name).getD p.value } :=
  if_neg first

theorem settled_name (calls : List (String × Value)) (earlier : List String) (p : Parameter) :
    (settled calls earlier p).name = p.name := by
  unfold settled
  split <;> rfl

/-- The last call for a name counts. -/
theorem lookup_snoc (calls : List (String × Value)) (call : String × Value) (name : String) :
    (calls ++ [call]).reverse.lookup name =
      if name = call.1 then some call.2 else calls.reverse.lookup name := by
  rw [List.reverse_append, List.reverse_singleton, List.singleton_append, List.lookup]
  by_cases same : name = call.1
  · rw [if_pos same, beq_iff_eq.mpr same]
  · rw [if_neg same, beq_eq_false_iff_ne.mpr same]

/-- One call sets the first parameter of its name and no other. -/
theorem settled_one (call : String × Value) (earlier : List String) (p : Parameter) :
    settled [call] earlier p =
      if p.name = call.1 ∧ call.1 ∉ earlier then { p with value := call.2 } else p := by
  have looked : [call].reverse.lookup p.name = if p.name = call.1 then some call.2 else none :=
    lookup_snoc [] call p.name
  by_cases same : p.name = call.1
  · by_cases seen : call.1 ∈ earlier
    · rw [settled_seen (same ▸ seen), if_neg fun both => both.2 seen]
    · rw [settled_first (same ▸ seen), looked, if_pos same, if_pos ⟨same, seen⟩]
      rfl
  · have other : ¬(p.name = call.1 ∧ call.1 ∉ earlier) := fun both => same both.1
    rw [if_neg other, settled, looked, if_neg same]
    split <;> rfl

/-- One call more is one call behind the others. -/
theorem settled_snoc (calls : List (String × Value)) (call : String × Value)
    (earlier : List String) (p : Parameter) :
    settled [call] earlier (settled calls earlier p) = settled (calls ++ [call]) earlier p := by
  rw [settled_one, settled_name]
  by_cases seen : p.name ∈ earlier
  · rw [settled_seen seen, settled_seen seen, if_neg fun both => both.2 (both.1 ▸ seen)]
  · rw [settled_first seen, settled_first seen, lookup_snoc]
    by_cases same : p.name = call.1
    · rw [if_pos ⟨same, same ▸ seen⟩, if_pos same]
      rfl
    · rw [if_neg fun both => same both.1, if_neg same]

theorem settledAll_getElem? (calls : List (String × Value)) (parameters : List Parameter) (i : Nat) :
    (settledAll calls parameters)[i]? =
      parameters[i]?.map (settled calls ((parameters.map (·.name)).take i)) :=
  List.getElem?_mapIdx

theorem settledAll_names (calls : List (String × Value)) (parameters : List Parameter) :
    (settledAll calls parameters).map (·.name) = parameters.map (·.name) := by
  refine List.ext_getElem? fun i => ?_
  rw [List.getElem?_map, List.getElem?_map, settledAll_getElem?, Option.map_map]
  congr 1
  funext p
  exact settled_name ..

theorem settledAll_nil (parameters : List Parameter) : settledAll [] parameters = parameters := by
  refine List.ext_getElem? fun i => ?_
  rw [settledAll_getElem?]
  have same : settled [] ((parameters.map (·.name)).take i) = id := by
    funext p
    unfold settled
    split <;> rfl
  rw [same, Option.map_id_apply]

theorem settledAll_snoc (calls : List (String × Value)) (call : String × Value)
    (parameters : List Parameter) :
    settledAll [call] (settledAll calls parameters) = settledAll (calls ++ [call]) parameters := by
  refine List.ext_getElem? fun i => ?_
  rw [settledAll_getElem?, settledAll_getElem?, settledAll_getElem?, settledAll_names,
    Option.map_map]
  congr 1
  funext p
  exact settled_snoc ..

theorem setValue_getElem? (call : String × Value) (parameters : List Parameter) (i : Nat) :
    (setValue call.1 call.2 parameters)[i]? =
      parameters[i]?.map (settled [call] ((parameters.map (·.name)).take i)) := by
  induction parameters generalizing i with
  | nil => rfl
  | cons p rest ih =>
    by_cases here : p.name = call.1
    · rw [setValue, if_pos here]
      cases i with
      | zero => simp [settled_one, here]
      | succ i =>
        -- All others stand behind the parameter that is set.
        have others : settled [call] (p.name :: (rest.map (·.name)).take i) = id := by
          funext q
          rw [settled_one, if_neg fun both => both.2 (here ▸ List.mem_cons_self)]
          rfl
        simp [others]
    · rw [setValue, if_neg here]
      cases i with
      | zero => simp [settled_one, here]
      | succ i =>
        have others : settled [call] (p.name :: (rest.map (·.name)).take i) =
            settled [call] ((rest.map (·.name)).take i) := by
          funext q
          simp only [settled_one, List.mem_cons, not_or, Ne.symm here, not_false_eq_true, true_and]
        rw [List.getElem?_cons_succ, List.getElem?_cons_succ, ih]
        simp [others]

theorem setValue_eq_settledAll (call : String × Value) (parameters : List Parameter) :
    setValue call.1 call.2 parameters = settledAll [call] parameters :=
  List.ext_getElem? fun i => by rw [setValue_getElem?, settledAll_getElem?]

end Setting

section Calls

/-- The names of the parameters settle what a call answers; and whatever that is, the first
parameter of the name is set. -/
theorem attempt_eq (c : Command) (call : String × Value) :
    c.attempt call =
      (if call.1 ∈ c.parameters.map (·.name) then .ok () else .error (.unknownParameter call.1),
        { c with parameters := settledAll [call] c.parameters }) := by
  rw [← setValue_eq_settledAll]
  unfold attempt bind parameter?
  cases found : c.parameters.find? fun p => p.name == call.1 with
  | none =>
    have unknown : ∀ p ∈ c.parameters, p.name ≠ call.1 := by
      simpa using List.find?_eq_none.mp found
    have missing : call.1 ∉ c.parameters.map (·.name) := by
      simpa using unknown
    rw [if_neg missing, setValue_unknown unknown]
  | some p =>
    have same : p.name = call.1 := by
      simpa using List.find?_some found
    have known := List.mem_map_of_mem (f := (·.name)) (List.mem_of_find?_eq_some found)
    rw [if_pos (same ▸ known)]

/-- A call fails exactly when no parameter has its name. -/
theorem attempt_error {c : Command} {call : String × Value} {failure : Failure} :
    (c.attempt call).1 = .error failure ↔
      failure = .unknownParameter call.1 ∧ ∀ p ∈ c.parameters, p.name ≠ call.1 := by
  rw [attempt_eq]
  by_cases known : call.1 ∈ c.parameters.map (·.name)
  · obtain ⟨p, among, same⟩ := List.mem_map.mp known
    rw [if_pos known]
    constructor
    · rintro ⟨⟩
    · rintro ⟨-, unknown⟩
      exact absurd same (unknown p among)
  · have unknown : ∀ p ∈ c.parameters, p.name ≠ call.1 := by
      simpa using known
    rw [if_neg known]
    constructor
    · rintro ⟨⟩
      exact ⟨rfl, unknown⟩
    · rintro ⟨rfl, -⟩
      rfl

/-- A call that fails leaves the command as it was. -/
theorem attempt_kept {c : Command} {call : String × Value} {failure : Failure}
    (failed : (c.attempt call).1 = .error failure) : (c.attempt call).2 = c := by
  rw [attempt_eq, ← setValue_eq_settledAll, setValue_unknown (attempt_error.mp failed).2]

/-- Calls for different names can change places. -/
theorem attempt_comm {a b : String × Value} (different : a.1 ≠ b.1) (c : Command) :
    ((c.attempt a).2.attempt b).2 = ((c.attempt b).2.attempt a).2 := by
  have swapped := setValue_comm different a.2 b.2 c.parameters
  simp only [attempt_eq, ← setValue_eq_settledAll, swapped]

end Calls

section Runs

theorem attemptAll_append (c : Command) (front behind : List (String × Value)) :
    (c.attemptAll (front ++ behind)).2 = ((c.attemptAll front).2.attemptAll behind).2 := by
  induction front generalizing c with
  | nil => rfl
  | cons call front ih => exact ih (c.attempt call).2

/-- After any calls the command is the one before with its parameters settled. -/
theorem attemptAll_command (c : Command) (calls : List (String × Value)) :
    (c.attemptAll calls).2 = { c with parameters := settledAll calls c.parameters } := by
  -- Each call settles anew what the calls in front of it have left.
  induction calls using List.reverseRecOn with
  | nil =>
    rw [settledAll_nil]
    rfl
  | append_singleton front call ih =>
    have last := attempt_eq (c.attemptAll front).2 call
    rw [attemptAll_append, ← settledAll_snoc]
    show ((c.attemptAll front).2.attempt call).2 = _
    rw [last, ih]

/-- What a whole run answers is settled by the names before it. -/
theorem attemptAll_answers (c : Command) (calls : List (String × Value)) :
    (c.attemptAll calls).1 = calls.map fun call =>
      if call.1 ∈ c.parameters.map (·.name) then .ok () else .error (.unknownParameter call.1) := by
  induction calls generalizing c with
  | nil => rfl
  | cons call later ih =>
    have names : (c.attempt call).2.parameters.map (·.name) = c.parameters.map (·.name) := by
      rw [attempt_eq, settledAll_names]
    show (c.attempt call).1 :: ((c.attempt call).2.attemptAll later).1 = _
    rw [ih, names, attempt_eq]
    rfl

/-- The calls that succeed make the same of a command when they are all that is called. -/
theorem bindAll_accepted (c : Command) (calls : List (String × Value)) :
    c.bindAll (c.accepted calls) = .ok (c.attemptAll calls).2 := by
  induction calls generalizing c with
  | nil => rfl
  | cons call later ih =>
    show _ = Except.ok ((c.attempt call).2.attemptAll later).2
    unfold accepted attempt
    cases bound : c.bind call.1 call.2 with
    | error failure => exact ih c
    | ok after =>
      have first : c.bindAll (call :: after.accepted later) =
          c.bind call.1 call.2 >>= fun d => d.bindAll (after.accepted later) := rfl
      rw [first, bound]
      exact ih after

/-- Calls that all succeed can as well be attempted. -/
theorem attemptAll_of_bindAll {c d : Command} {calls : List (String × Value)}
    (bound : c.bindAll calls = .ok d) : (c.attemptAll calls).2 = d := by
  induction calls generalizing c with
  | nil =>
    cases bound
    rfl
  | cons call later ih =>
    obtain ⟨between, first, rest⟩ := bind_eq_ok bound
    have called : (c.attempt call).2 = between := by
      replace first : c.bind call.1 call.2 = .ok between := first
      rw [attempt, first]
    show ((c.attempt call).2.attemptAll later).2 = d
    rw [called]
    exact ih rest

end Runs

/-- How a run of calls goes, and what is left of the command. -/
structure LastWriterWins (c : Command) (calls : List (String × Value)) : Prop where
  /-- A call fails, for its argument, exactly when no parameter has its name. -/
  fails : ∀ front call behind, calls = front ++ call :: behind → ∀ failure,
    ((c.attemptAll front).2.attempt call).1 = .error failure ↔
      failure = .unknownParameter call.1 ∧ failure.category = .invalidArgument ∧
        ∀ p ∈ (c.attemptAll front).2.parameters, p.name ≠ call.1
  /-- A call that fails leaves the command as it was. -/
  kept : ∀ front call behind failure, calls = front ++ call :: behind →
    ((c.attemptAll front).2.attempt call).1 = .error failure →
      ((c.attemptAll front).2.attempt call).2 = (c.attemptAll front).2
  /-- Whether a call succeeds depends on the names before the run alone. -/
  answers : (c.attemptAll calls).1 = calls.map fun call =>
    if call.1 ∈ c.parameters.map (·.name) then .ok () else .error (.unknownParameter call.1)
  /-- Nothing changes but values, and of the parameters of one name only the first is given a value,
  the last one that a call for the name has succeeded with. -/
  command : (c.attemptAll calls).2 =
    { c with parameters := c.parameters.mapIdx fun i p =>
      if p.name ∈ (c.parameters.map (·.name)).take i then p
      else { p with value := ((c.accepted calls).reverse.lookup p.name).getD p.value } }
  /-- Without the calls that fail all calls succeed, and the result is the same. -/
  succeeding : c.bindAll (c.accepted calls) = .ok (c.attemptAll calls).2
  /-- Each call that fails can be left out. -/
  without : ∀ front call behind failure, calls = front ++ call :: behind →
    ((c.attemptAll front).2.attempt call).1 = .error failure →
      (c.attemptAll (front ++ behind)).2 = (c.attemptAll calls).2
  /-- Calls for different names that follow one another can change places. -/
  swapped : ∀ front a b behind, calls = front ++ a :: b :: behind → a.1 ≠ b.1 →
    (c.attemptAll (front ++ b :: a :: behind)).2 = (c.attemptAll calls).2

/-- In any run of calls the last one for a name wins, and nothing else is touched. -/
theorem attemptAll_lastWriterWins (c : Command) (calls : List (String × Value)) :
    c.LastWriterWins calls where
  fails := by
    rintro front call behind - failure
    rw [attempt_error]
    constructor
    · rintro ⟨rfl, unknown⟩
      exact ⟨rfl, rfl, unknown⟩
    · rintro ⟨rfl, -, unknown⟩
      exact ⟨rfl, unknown⟩
  kept := fun _ _ _ _ _ failed => attempt_kept failed
  answers := attemptAll_answers c calls
  command := by
    rw [← attemptAll_of_bindAll (bindAll_accepted c calls), attemptAll_command]
    rfl
  succeeding := bindAll_accepted c calls
  without := by
    rintro front call behind failure rfl failed
    rw [attemptAll_append, attemptAll_append]
    show _ = (((c.attemptAll front).2.attempt call).2.attemptAll behind).2
    rw [attempt_kept failed]
  swapped := by
    rintro front a b behind rfl different
    rw [attemptAll_append, attemptAll_append]
    show ((((c.attemptAll front).2.attempt b).2.attempt a).2.attemptAll behind).2 = _
    rw [← attempt_comm different]
    rfl

example :
    let parameter name := Parameter.derived name (.ofKind .int64) .input .null
    let c : Command := ⟨"SELECT @a, @b", .text, [parameter "a", parameter "b", parameter "a"]⟩
    let after := (c.attemptAll [("a", .integer 1), ("c", .integer 2), ("a", .integer 3)]).2
    after.parameters.map (·.value) = [.integer 3, .null, .null] := by
  decide

end StoreBridge.Command

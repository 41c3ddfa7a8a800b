import StoreBridge.Proofs.FacetValue

/-! Runs of assignments to facets. A text assigns a value to a facet if it is a key of the facet, an
equals sign, and a way to write the value, with any blanks around either; no text assigns more than
one value, or to more than one facet. An assignment gives the facet its value and leaves the others
as they are, and any other text fails and leaves them all. So after a run each facet has the value
of the last assignment to it, or the one that it had before; and from nothing a set of facets is
made by any run that assigns each of its facets the value that it has there. -/
namespace StoreBridge
open Text

/-- How a character of a key counts: letters in either case, and a hyphen as an underscore. -/
def keyChar (c : Char) : Char :=
  if c = '-' then '_' else c.toLower

/-- The spellings of the keys of a facet. -/
def FacetName.Spells (n : FacetName) (cs : List Char) : Prop :=
  String.ofList (cs.map keyChar) ∈ n.keys

/-- A text assigns a value to a facet. -/
inductive Assigns : String → (n : FacetName) → n.Value → Prop where
  | mk {n : FacetName} {v : n.Value} {front key between after value behind : List Char}
      (spelt : n.Spells key) (writes : n.Writes value v) (before : Blanks front)
      (first : Blanks between) (second : Blanks after) (last : Blanks behind) :
      Assigns (String.ofList (front ++ key ++ between ++ '=' :: (after ++ value ++ behind))) n v

section Keys
variable {n : FacetName} {key front behind : List Char}

theorem isBlank_of_keyChar {c : Char} (letters : keyChar c = '_' ∨ isLetter (keyChar c) = true) :
    isBlank c = false ∧ c ≠ '=' := by
  unfold keyChar at letters
  split at letters
  · rename_i hyphen
    rw [hyphen]
    decide
  · rcases letters with underscore | letter
    · by_cases own : isLetter c = true
      · have lowered := isLetter_toLower c
        rw [underscore, own] at lowered
        cases lowered
      · rw [toLower_eq_self (by simpa using own)] at underscore
        rw [underscore]
        decide
    · rw [isLetter_toLower] at letter
      refine ⟨isBlank_of_isLetter letter, ?_⟩
      rintro rfl
      cases letter

/-- The keys have letters and underscores only. -/
theorem FacetName.Spells.solid (spelt : n.Spells key) :
    ∀ c ∈ key, isBlank c = false ∧ c ≠ '=' := by
  intro c among
  have keys : ∀ k ∈ n.keys, k.toList.all (fun d => d = '_' || isLetter d) = true := by
    cases n <;> decide +kernel
  have inside : keyChar c ∈ (String.ofList (key.map keyChar)).toList := by
    rw [String.toList_ofList]
    exact List.mem_map_of_mem among
  have letters := List.all_eq_true.mp (keys _ spelt) _ inside
  exact isBlank_of_keyChar (by simpa using letters)

/-- Blanks around a text without blanks at its ends are trimmed away. -/
theorem trimChars_around {cs : List Char} (solid : ∀ c ∈ cs, isBlank c = false)
    (before : Blanks front) (after : Blanks behind) : trimChars (front ++ cs ++ behind) = cs := by
  rw [trimChars_padded before after]
  apply trimChars_solid
  · intro c first
    exact solid c (List.mem_of_mem_head? first)
  · intro c last
    exact solid c (List.mem_of_mem_getLast? last)

end Keys

/-- The facet and the value that a text assigns, whatever the facets are before. -/
def assigned (a : String) : Except Failure ((n : FacetName) × n.Value) :=
  match splitOnce '=' a.toList with
  | none => .error (.assignmentWithoutValue a)
  | some (before, after) =>
    match FacetName.ofKey? (Facets.normalKey before) with
    | none => .error (.unknownFacet (Facets.normalKey before))
    | some n =>
      match n.read? (String.ofList (trimChars after)) with
      | none => .error (n.badValue (String.ofList (trimChars after)) (Facets.normalKey before))
      | some v => .ok ⟨n, v⟩

section Assigned
variable {a : String} {n m : FacetName} {v : n.Value} {w : m.Value}

theorem Facets.assign_eq (f : Facets) (a : String) :
    f.assign a = (assigned a).map fun found => f.put found.1 found.2 := by
  unfold assign assigned
  cases splitOnce '=' a.toList with
  | none => rfl
  | some cut =>
    dsimp only
    cases FacetName.ofKey? (normalKey cut.1) with
    | none => rfl
    | some n =>
      dsimp only
      rw [set_eq]
      cases n.read? _ <;> rfl

theorem assigned_of_assigns (assigns : Assigns a n v) : assigned a = .ok ⟨n, v⟩ := by
  cases assigns with
  | @mk _ _ front key between after value behind spelt writes before first second last =>
    have outside : '=' ∉ front ++ key ++ between := by
      simp only [List.mem_append, not_or]
      exact ⟨⟨not_mem_of_blanks (by decide) before, fun among => (spelt.solid _ among).2 rfl⟩,
        not_mem_of_blanks (by decide) first⟩
    have keyed : Facets.normalKey (front ++ key ++ between) = String.ofList (key.map keyChar) := by
      rw [Facets.normalKey, trimChars_around (fun c among => (spelt.solid c among).1) before first]
      rfl
    have valued := trimChars_around writes.solid second last
    simp only [assigned, String.toList_ofList, splitOnce_front outside, keyed,
      FacetName.ofKey?_eq_some_iff.mpr spelt, valued, FacetName.read?_eq_some_iff.mpr writes]

/-- Only texts that assign a value are read. -/
theorem assigned_eq_ok_iff : assigned a = .ok ⟨n, v⟩ ↔ Assigns a n v := by
  refine ⟨fun found => ?_, assigned_of_assigns⟩
  unfold assigned at found
  split at found
  · cases found
  · rename_i before after cut
    split at found
    · cases found
    · rename_i n own
      split at found
      · cases found
      · rename_i v read
        cases found
        obtain ⟨whole, -⟩ := splitOnce_eq_some cut
        obtain ⟨front, between, blankFront, blankBetween, key⟩ := exists_trimChars before
        obtain ⟨first, behind, blankFirst, blankBehind, value⟩ := exists_trimChars after
        rw [key, value] at whole
        rw [← String.ofList_toList (s := a), whole]
        exact .mk (FacetName.ofKey?_eq_some_iff.mp own) (FacetName.read?_eq_some_iff.mp read)
          blankFront blankBetween blankFirst blankBehind

/-- A text assigns one value to one facet. -/
theorem Assigns.unique (assigns : Assigns a n v) (again : Assigns a m w) :
    (⟨n, v⟩ : (n : FacetName) × n.Value) = ⟨m, w⟩ := by
  have found := assigned_of_assigns assigns
  rw [assigned_of_assigns again] at found
  exact (Except.ok.inj found).symm

theorem assigned_refused {failure : Failure} (failed : assigned a = .error failure) :
    failure.category = .invalidArgument := by
  unfold assigned at failed
  split at failed
  · cases failed
    rfl
  · split at failed
    · cases failed
      rfl
    · rename_i n own
      split at failed
      · cases failed
        cases n <;> rfl
      · cases failed

end Assigned

namespace Facets
variable {f g : Facets} {a : String} {as bs : List String}

/-- What becomes of facets at an assignment of a run. -/
inductive Step (f : Facets) (a : String) : Facets → Prop where
  | kept {failure : Failure} (failed : f.assign a = .error failure)
      (invalid : failure.category = .invalidArgument) (nothing : ∀ n v, ¬ Assigns a n v) :
      Step f a f
  | changed {g : Facets} {n : FacetName} {v : n.Value} (ended : f.assign a = .ok g)
      (assigns : Assigns a n v) (given : g.get n = some v)
      (others : ∀ m, m ≠ n → g.get m = f.get m) : Step f a g

theorem assignEach_append : f.assignEach (as ++ bs) = (f.assignEach as).assignEach bs := by
  induction as generalizing f with
  | nil => rfl
  | cons a as ih =>
    rw [List.cons_append, assignEach, assignEach]
    cases f.assign a with
    | ok g => exact ih
    | error failure => exact ih

theorem assignEach_step (f : Facets) (a : String) : Step f a (f.assignEach [a]) := by
  have ended := f.assign_eq a
  cases found : assigned a with
  | ok made =>
    obtain ⟨n, v⟩ := made
    rw [found] at ended
    simp only [assignEach, ended]
    exact .changed ended (assigned_eq_ok_iff.mp found) (get_put_self f n v) fun m other =>
      get_put_other f other v
  | error failure =>
    rw [found] at ended
    simp only [assignEach, ended]
    refine .kept ended (assigned_refused found) ?_
    intro n v assigns
    rw [assigned_of_assigns assigns] at found
    cases found

/-- Where assignments leave a facet: at the value of the last one to it, or where it was. -/
inductive Settles (n : FacetName) (start : Option n.Value) (as : List String) :
    Option n.Value → Prop where
  | kept (never : ∀ a ∈ as, ∀ v, ¬ Assigns a n v) : Settles n start as start
  | last {front behind : List String} {a : String} {v : n.Value} (split : as = front ++ a :: behind)
      (assigns : Assigns a n v) (after : ∀ b ∈ behind, ∀ w, ¬ Assigns b n w) :
      Settles n start as (some v)

/-- One more text that does not assign to the facet leaves it where it was. -/
theorem Settles.snoc {n : FacetName} {start settled : Option n.Value}
    (settles : Settles n start as settled) (other : ∀ v, ¬ Assigns a n v) :
    Settles n start (as ++ [a]) settled := by
  have extended {bs : List String} (none : ∀ b ∈ bs, ∀ v, ¬ Assigns b n v) :
      ∀ b ∈ bs ++ [a], ∀ v, ¬ Assigns b n v := by
    intro b among
    rcases List.mem_append.mp among with before | last
    · exact none b before
    · rw [List.mem_singleton.mp last]
      exact other
  cases settles with
  | kept never => exact .kept (extended never)
  | last split assigns after =>
    exact .last (by rw [split, List.append_assoc, List.cons_append]) assigns (extended after)

theorem assignEach_settles (f : Facets) (as : List String) (n : FacetName) :
    Settles n (f.get n) as ((f.assignEach as).get n) := by
  induction as using List.reverseRecOn with
  | nil => exact .kept fun _ none => nomatch none
  | append_singleton as a ih =>
    rw [assignEach_append]
    have step := assignEach_step (f.assignEach as) a
    generalize (f.assignEach as).assignEach [a] = after at step
    cases step with
    | kept _ _ nothing => exact ih.snoc (nothing n)
    | @changed _ m v _ assigns given others =>
      by_cases own : n = m
      · subst own
        rw [given]
        exact .last rfl assigns fun _ none => nomatch none
      · rw [others n own]
        apply ih.snoc
        intro w again
        exact own (congrArg Sigma.fst (again.unique assigns))

/-- Every text assigns one of the facets the value that it has, and no facet is left out. -/
structure WrittenBy (g : Facets) (as : List String) : Prop where
  each : ∀ a ∈ as, ∃ n v, Assigns a n v ∧ g.get n = some v
  all : ∀ n v, g.get n = some v → ∃ a ∈ as, Assigns a n v

theorem WrittenBy.assignEach_eq (written : g.WrittenBy as) : ({} : Facets).assignEach as = g := by
  apply ext_get
  intro n
  have settles := assignEach_settles {} as n
  rw [get_nothing] at settles
  generalize (({} : Facets).assignEach as).get n = settled at settles
  cases settles with
  | kept never =>
    cases own : g.get n with
    | none => rfl
    | some v =>
      obtain ⟨a, among, assigns⟩ := written.all n v own
      exact absurd assigns (never a among v)
  | @last _ _ a v split assigns after =>
    obtain ⟨m, w, again, own⟩ := written.each a (by simp [split])
    cases assigns.unique again
    exact own.symm

/-- The plain text of an assignment. -/
def assignmentText (n : FacetName) (v : n.Value) : String :=
  n.keys.headD "" ++ "=" ++ n.valueText v

/-- The plain texts of the facets that are stated. -/
def written (g : Facets) : List String :=
  FacetName.all.filterMap fun n => (g.get n).map (assignmentText n)

theorem assignmentText_assigns (n : FacetName) (v : n.Value) :
    Assigns (assignmentText n v) n v := by
  have nothing : Blanks [] := List.forall_mem_nil _
  have spelt : n.Spells (n.keys.headD "").toList := by
    unfold FacetName.Spells
    cases n <;> decide +kernel
  have assigns := Assigns.mk spelt (n.writes_valueText v) nothing nothing nothing nothing
  have text : assignmentText n v = String.ofList ([] ++ (n.keys.headD "").toList ++ [] ++
      '=' :: ([] ++ (n.valueText v).toList ++ [])) := by
    rw [← String.toList_inj]
    simp [assignmentText]
  rwa [text]

theorem writtenBy_of_perm (perm : as.Perm g.written) : g.WrittenBy as where
  each := by
    intro a among
    obtain ⟨n, -, written⟩ := List.mem_filterMap.mp (perm.mem_iff.mp among)
    obtain ⟨v, own, rfl⟩ := Option.map_eq_some_iff.mp written
    exact ⟨n, v, assignmentText_assigns n v, own⟩
  all := by
    intro n v own
    refine ⟨assignmentText n v, perm.mem_iff.mpr ?_, assignmentText_assigns n v⟩
    exact List.mem_filterMap.mpr ⟨n, n.mem_all, by rw [own]; rfl⟩

/-- A run in which no text fails is one that may stop at a failure. -/
theorem assignAll_eq (all : ∀ a ∈ as, ∃ n v, Assigns a n v) :
    f.assignAll as = .ok (f.assignEach as) := by
  induction as generalizing f with
  | nil => rfl
  | cons a as ih =>
    obtain ⟨n, v, assigns⟩ := all a List.mem_cons_self
    simp only [assignAll, assignEach, assign_eq, assigned_of_assigns assigns]
    exact ih fun b among => all b (List.mem_cons_of_mem a among)

/-- How a run of assignments goes, and what it is good for. -/
structure LastAssignmentWins (f : Facets) (as : List String) : Prop where
  /-- Each text assigns and changes one facet, or it fails and changes nothing. -/
  steps : ∀ front a behind, as = front ++ a :: behind →
    Step (f.assignEach front) a (f.assignEach (front ++ [a]))
  /-- A text that fails can be left out. -/
  without : ∀ front a behind failure, as = front ++ a :: behind →
    (f.assignEach front).assign a = .error failure →
      f.assignEach (front ++ behind) = f.assignEach as
  /-- A facet has the value of the last assignment to it, or the one that it had. -/
  final : ∀ n, Settles n (f.get n) as ((f.assignEach as).get n)
  /-- Facets are made from nothing by texts that write them out. -/
  rebuilds : ∀ g : Facets, g.WrittenBy as →
    ({} : Facets).assignEach as = g ∧ ({} : Facets).assignAll as = .ok g
  /-- Facets are written out by their plain texts, in any order. -/
  written : ∀ g : Facets, as.Perm g.written → g.WrittenBy as

/-- In any run of assignments the last one to a facet wins, and nothing else is touched. -/
theorem assignEach_lastAssignmentWins (f : Facets) (as : List String) :
    f.LastAssignmentWins as where
  steps := by
    rintro front a behind -
    rw [assignEach_append]
    exact assignEach_step (f.assignEach front) a
  without := by
    rintro front a behind failure rfl failed
    rw [assignEach_append, assignEach_append, assignEach, failed]
  final := assignEach_settles f as
  rebuilds := by
    intro g written
    have all : ∀ a ∈ as, ∃ n v, Assigns a n v := by
      intro a among
      obtain ⟨n, v, assigns, -⟩ := written.each a among
      exact ⟨n, v, assigns⟩
    rw [assignAll_eq all, written.assignEach_eq]
    exact ⟨rfl, rfl⟩
  written := fun _ => writtenBy_of_perm

/-- What is refused between the assignments is passed over, and the spellings of a key are one. -/
example :
    ({} : Facets).assignEach ["max_length=50", " Fixed-Length = TRUE", "precision=300",
      "colour=red", "MaxLength=\tMAX "] =
        { maxLength := some .unbounded, fixedLength := some true } := by
  decide +kernel

end Facets
end StoreBridge

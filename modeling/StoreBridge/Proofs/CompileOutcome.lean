import Mathlib.Data.List.Forall2
import StoreBridge.Command

/-! What compiling comes to, for every generator of text. The outcome is said by the generator's
answer, the declarations in their order and the routine, without the loop that goes through them:
the generator's failure counts first, then the first declaration that is refused, then parameters of
the generator's own where the body permits none. A command that is compiled keeps the generator's
text, and of each declaration the routine's first parameter of its name has the say. -/
namespace StoreBridge

namespace Declared

/-- Declarations that can stand together: no name repeats, and each is one. -/
structure Acceptable (declarations : List DeclaredParameter) : Prop where
  distinct : (declarations.map (·.name)).Nodup
  named : ∀ d ∈ declarations, Parameter.isName d.name.toList = true

/-- A declaration is refused behind earlier ones. A name that repeats counts before what it is made
of. -/
inductive Refused (earlier : List DeclaredParameter) (d : DeclaredParameter) : Failure → Prop where
  | repeated (again : d.name ∈ earlier.map (·.name)) : Refused earlier d (.repeatedParameter d.name)
  | empty (fresh : d.name ∉ earlier.map (·.name)) (nothing : d.name = "") :
      Refused earlier d .emptyParameterName
  | malformed (fresh : d.name ∉ earlier.map (·.name)) (something : d.name ≠ "")
      (noName : Parameter.isName d.name.toList = false) :
      Refused earlier d (.malformedParameterName d.name)

/-- The parameter that a declaration stands for: the first parameter of that name in the signature
of the routine that is called has the say on type and direction, and the declaration itself only
without one. It has no value yet. -/
inductive StandsFor (body : CommandBody) (d : DeclaredParameter) : Parameter → Prop where
  | formal {routine : Routine} {before after : List FormalParameter} {formal : FormalParameter}
      (called : body = .function routine) (split : routine.parameters = before ++ formal :: after)
      (same : formal.name = d.name) (first : ∀ other ∈ before, other.name ≠ d.name) :
      StandsFor body d (.derived d.name formal.type formal.direction .null)
  | own (unknown : ∀ routine, body = .function routine →
        ∀ formal ∈ routine.parameters, formal.name ≠ d.name) :
      StandsFor body d (.derived d.name d.type .input .null)

theorem refused_category {earlier : List DeclaredParameter} {d : DeclaredParameter}
    {failure : Failure} (refused : Refused earlier d failure) :
    failure.category = .invalidArgument := by
  cases refused <;> rfl

/-- A declaration behind acceptable ones is acceptable with them, or refused. -/
theorem acceptable_snoc {earlier : List DeclaredParameter} (acceptable : Acceptable earlier)
    (d : DeclaredParameter) :
    Acceptable (earlier ++ [d]) ∨ ∃ failure, Refused earlier d failure := by
  by_cases again : d.name ∈ earlier.map (·.name)
  · exact .inr ⟨_, .repeated again⟩
  by_cases nothing : d.name = ""
  · exact .inr ⟨_, .empty again nothing⟩
  cases isName : Parameter.isName d.name.toList with
  | false => exact .inr ⟨_, .malformed again nothing isName⟩
  | true =>
    refine .inl ⟨?_, ?_⟩
    · rw [List.map_append, List.nodup_append]
      refine ⟨acceptable.distinct, by simp, ?_⟩
      intro name early other late same
      rw [List.map_singleton, List.mem_singleton] at late
      exact again (late ▸ same ▸ early)
    · intro e among
      rcases List.mem_append.mp among with early | late
      · exact acceptable.named e early
      · rw [List.mem_singleton.mp late]
        exact isName

/-- Declarations are acceptable, or there is a first one among them that is refused. -/
theorem acceptable_or_refused (declarations : List DeclaredParameter) :
    Acceptable declarations ∨ ∃ front d behind failure, declarations = front ++ d :: behind ∧
      Acceptable front ∧ Refused front d failure := by
  -- The declarations that have been found acceptable are put in front of the others.
  have scan (front behind : List DeclaredParameter) (acceptable : Acceptable front) :
      Acceptable (front ++ behind) ∨ ∃ early d late failure, front ++ behind = early ++ d :: late ∧
        Acceptable early ∧ Refused early d failure := by
    induction behind generalizing front with
    | nil =>
      rw [List.append_nil]
      exact .inl acceptable
    | cons d behind ih =>
      rcases acceptable_snoc acceptable d with longer | ⟨failure, refused⟩
      · have rest := ih (front ++ [d]) longer
        rwa [List.append_assoc, List.singleton_append] at rest
      · exact .inr ⟨front, d, behind, failure, rfl, acceptable, refused⟩
  exact scan [] declarations ⟨List.nodup_nil, fun _ among => nomatch among⟩

/-- Every declaration stands for a parameter. -/
theorem exists_standsFor (body : CommandBody) (d : DeclaredParameter) :
    ∃ p, StandsFor body d p := by
  cases body with
  | function routine =>
    cases found : routine.parameters.find? fun formal => formal.name == d.name with
    | none =>
      refine ⟨_, .own fun other called formal among => ?_⟩
      cases called
      simpa using List.find?_eq_none.mp found formal among
    | some formal =>
      obtain ⟨same, before, after, split, first⟩ := List.find?_eq_some_iff_append.mp found
      refine ⟨_, .formal rfl split (by simpa using same) fun other among => ?_⟩
      simpa using first other among
  | _ => exact ⟨_, .own fun _ called => nomatch called⟩

theorem forall_standsFor (body : CommandBody) (declarations : List DeclaredParameter) :
    ∃ parameters, List.Forall₂ (StandsFor body) declarations parameters := by
  induction declarations with
  | nil => exact ⟨[], .nil⟩
  | cons d declarations ih =>
    obtain ⟨p, first⟩ := exists_standsFor body d
    obtain ⟨parameters, rest⟩ := ih
    exact ⟨p :: parameters, .cons first rest⟩

end Declared

namespace CommandTree
open Declared

theorem checkName_of_isName {name : String} (isName : Parameter.isName name.toList = true) :
    Parameter.checkName name = .ok () := by
  have filled : name.isEmpty = false := by
    cases empty : name.isEmpty with
    | false => rfl
    | true =>
      rw [String.isEmpty_iff.mp empty] at isName
      cases isName
  simp [Parameter.checkName, filled, isName]

/-- The signature of a routine has the say on a parameter that it names. -/
theorem declared_formal {routine : Routine} {d : DeclaredParameter} {formal : FormalParameter}
    (found : routine.parameter? d.name = some formal) :
    declared (some routine) d =
      Parameter.create formal.name formal.type formal.direction .null := by
  unfold declared
  rw [Option.bind_some, found]

/-- A declaration that stands for a parameter is turned into it, if its name is one. -/
theorem declared_eq {body : CommandBody} {d : DeclaredParameter} {p : Parameter}
    (stands : StandsFor body d p) :
    declared body.routine? d = (Parameter.checkName d.name).map fun _ => p := by
  have created (name : String) (type : ConceptualType) (direction : Direction) :
      Parameter.create name type direction .null =
        (Parameter.checkName name).map fun _ => .derived name type direction .null := by
    unfold Parameter.create
    cases Parameter.checkName name <;> rfl
  cases stands with
  | @formal routine before after formal called split same first =>
    have found : routine.parameter? d.name = some formal := by
      unfold Routine.parameter?
      rw [List.find?_eq_some_iff_append]
      exact ⟨by simpa using same, before, after, split, fun other among => by
        simpa using first other among⟩
    rw [called]
    show declared (some routine) d = _
    rw [declared_formal found, created, same]
  | own unknown =>
    have missing : (body.routine?.bind (·.parameter? d.name)) = none := by
      cases body with
      | function routine =>
        show routine.parameters.find? _ = none
        rw [List.find?_eq_none]
        intro formal among
        simpa using unknown routine rfl formal among
      | _ => rfl
    rw [declared, missing]
    exact created ..

/-- Acceptable declarations in front are turned into what they stand for, and their names are known
to what follows. -/
theorem declaredAll_front {body : CommandBody} {front : List DeclaredParameter}
    {parameters : List Parameter} (stand : List.Forall₂ (StandsFor body) front parameters)
    (acceptable : Acceptable front) (seen : List String) (fresh : ∀ d ∈ front, d.name ∉ seen)
    (behind : List DeclaredParameter) :
    declaredAll body.routine? seen (front ++ behind) =
      (declaredAll body.routine? ((front.map (·.name)).reverse ++ seen) behind).map
        (parameters ++ ·) := by
  induction stand generalizing seen with
  | nil =>
    show _ = (declaredAll body.routine? seen behind).map ([] ++ ·)
    rw [List.nil_append]
    cases declaredAll body.routine? seen behind <;> rfl
  | @cons d p front parameters first rest ih =>
    obtain ⟨distinct, named⟩ := acceptable
    rw [List.map_cons, List.nodup_cons] at distinct
    have unseen : seen.contains d.name = false := by
      simpa using fresh d (List.mem_cons_self ..)
    have turned : declared body.routine? d = .ok p := by
      rw [declared_eq first, checkName_of_isName (named d (List.mem_cons_self ..))]
      rfl
    have others := ih ⟨distinct.2, fun e among => named e (List.mem_cons_of_mem _ among)⟩
      (d.name :: seen) fun e among => by
        rw [List.mem_cons, not_or]
        refine ⟨fun same => distinct.1 ?_, fresh e (List.mem_cons_of_mem _ among)⟩
        exact same ▸ List.mem_map_of_mem among
    show declaredAll body.routine? seen (d :: (front ++ behind)) = _
    rw [declaredAll, unseen, turned]
    simp only [Bool.false_eq_true, if_false, bind, Except.bind, others, List.map_cons,
      List.reverse_cons, List.append_assoc, List.singleton_append]
    cases declaredAll body.routine? ((front.map (·.name)).reverse ++ d.name :: seen) behind <;> rfl

theorem declaredAll_acceptable {body : CommandBody} {declarations : List DeclaredParameter}
    {parameters : List Parameter} (acceptable : Acceptable declarations)
    (stand : List.Forall₂ (StandsFor body) declarations parameters) :
    declaredAll body.routine? [] declarations = .ok parameters := by
  have all := declaredAll_front stand acceptable [] (fun _ _ => List.not_mem_nil) []
  rw [List.append_nil] at all
  rw [all]
  show Except.ok (parameters ++ []) = _
  rw [List.append_nil]

/-- The first declaration that is refused is reported, whatever follows it. -/
theorem declaredAll_refused {body : CommandBody} {front behind : List DeclaredParameter}
    {d : DeclaredParameter} {failure : Failure} (acceptable : Acceptable front)
    (refused : Refused front d failure) :
    declaredAll body.routine? [] (front ++ d :: behind) = .error failure := by
  obtain ⟨parameters, stand⟩ := forall_standsFor body front
  have known : ((front.map (·.name)).reverse ++ ([] : List String)).contains d.name = true ↔
      d.name ∈ front.map (·.name) := by simp
  obtain ⟨p, stands⟩ := exists_standsFor body d
  rw [declaredAll_front stand acceptable [] (fun _ _ => List.not_mem_nil), declaredAll]
  cases refused with
  | repeated again =>
    rw [if_pos (known.mpr again)]
    rfl
  | empty fresh nothing =>
    rw [if_neg (mt known.mp fresh), declared_eq stands, nothing]
    rfl
  | malformed fresh something noName =>
    have filled : d.name.isEmpty = false := by
      cases empty : d.name.isEmpty with
      | false => rfl
      | true => exact absurd (String.isEmpty_iff.mp empty) something
    rw [if_neg (mt known.mp fresh), declared_eq stands, Parameter.checkName, filled, noName]
    rfl

/-- What compiling comes to. -/
inductive Outcome (generate : Generator) (form : DateTimeForm) (tree : CommandTree) :
    Except Failure Command → Prop where
  /-- The generator's failure is passed on. -/
  | notGenerated {failure : Failure} (failed : generate form tree = .error failure) :
      Outcome generate form tree (.error failure)
  /-- The first declaration that is refused is reported. -/
  | refused {generated : Command} {front behind : List DeclaredParameter} {d : DeclaredParameter}
      {failure : Failure} (made : generate form tree = .ok generated)
      (split : tree.parameters = front ++ d :: behind) (acceptable : Acceptable front)
      (refused : Refused front d failure) : Outcome generate form tree (.error failure)
  /-- Only what changes tables may have parameters of the generator's own. -/
  | notPermitted {generated : Command} (made : generate form tree = .ok generated)
      (acceptable : Acceptable tree.parameters) (own : generated.parameters ≠ [])
      (permits : tree.body.permitsGenerated = false) :
      Outcome generate form tree (.error (.generatedParameters tree.body.word))
  /-- The declared parameters stand in front of the generator's own. -/
  | compiled {generated : Command} {parameters : List Parameter}
      (made : generate form tree = .ok generated) (acceptable : Acceptable tree.parameters)
      (permitted : generated.parameters = [] ∨ tree.body.permitsGenerated = true)
      (stand : List.Forall₂ (StandsFor tree.body) tree.parameters parameters) :
      Outcome generate form tree
        (.ok ⟨generated.text, generated.type, parameters ++ generated.parameters⟩)

section Outcomes
variable {generate : Generator} {form : DateTimeForm} {tree : CommandTree}

theorem Outcome.compile_eq {result : Except Failure Command}
    (outcome : Outcome generate form tree result) : tree.compile generate form = result := by
  cases outcome with
  | notGenerated failed =>
    rw [compile, failed]
    rfl
  | refused made split acceptable refused =>
    rw [compile, made, split]
    simp only [bind, Except.bind, declaredAll_refused acceptable refused]
  | notPermitted made acceptable own permits =>
    obtain ⟨parameters, stand⟩ := forall_standsFor tree.body tree.parameters
    have filled := List.isEmpty_eq_false_iff.mpr own
    simp only [compile, made, bind, Except.bind, declaredAll_acceptable acceptable stand, filled,
      permits]
    rfl
  | @compiled generated parameters made acceptable permitted stand =>
    have passes : (!generated.parameters.isEmpty && !tree.body.permitsGenerated) = false := by
      rcases permitted with none | permits
      · rw [none]
        rfl
      · rw [permits, Bool.not_true, Bool.and_false]
    simp only [compile, made, bind, Except.bind, declaredAll_acceptable acceptable stand, passes]
    rfl

theorem exists_outcome (generate : Generator) (form : DateTimeForm) (tree : CommandTree) :
    ∃ result, Outcome generate form tree result := by
  cases made : generate form tree with
  | error failure => exact ⟨_, .notGenerated made⟩
  | ok generated =>
    rcases acceptable_or_refused tree.parameters with
      acceptable | ⟨front, d, behind, failure, split, acceptable, refused⟩
    · by_cases own : generated.parameters = []
      · obtain ⟨parameters, stand⟩ := forall_standsFor tree.body tree.parameters
        exact ⟨_, .compiled made acceptable (.inl own) stand⟩
      · cases permits : tree.body.permitsGenerated with
        | false => exact ⟨_, .notPermitted made acceptable own permits⟩
        | true =>
          obtain ⟨parameters, stand⟩ := forall_standsFor tree.body tree.parameters
          exact ⟨_, .compiled made acceptable (.inr permits) stand⟩
    · exact ⟨_, .refused made split acceptable refused⟩

end Outcomes

/-- The parameters of a signature that a tree declares. -/
def declaredFormals (tree : CommandTree) (routine : Routine) : List FormalParameter :=
  routine.parameters.filter fun formal => (tree.parameters.map (·.name)).contains formal.name

/-- Only declared names are looked up in a signature. -/
theorem declaredAll_congr {routine other : Routine} {declarations : List DeclaredParameter}
    (same : ∀ d ∈ declarations, other.parameter? d.name = routine.parameter? d.name)
    (seen : List String) :
    declaredAll (some other) seen declarations = declaredAll (some routine) seen declarations := by
  induction declarations generalizing seen with
  | nil => rfl
  | cons d declarations ih =>
    have first : declared (some other) d = declared (some routine) d := by
      unfold declared
      rw [Option.bind_some, Option.bind_some, same d (List.mem_cons_self ..)]
    have rest := ih fun e among => same e (List.mem_cons_of_mem _ among)
    simp only [declaredAll, first, rest]

/-- The first parameter of a declared name is found among the declared ones. -/
theorem parameter?_declaredFormals (tree : CommandTree) (routine : Routine) {name : String}
    (known : name ∈ tree.parameters.map (·.name)) :
    routine.parameter? name = (tree.declaredFormals routine).find? fun formal =>
      formal.name == name := by
  rw [Routine.parameter?, declaredFormals, List.find?_filter]
  congr 1
  funext formal
  by_cases same : formal.name = name
  · simp [same, known]
  · simp [same]

end CommandTree
end StoreBridge

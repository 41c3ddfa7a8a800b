import StoreBridge.Command.Record
import StoreBridge.CommandTree.Record
import StoreBridge.Proofs.JsonReading

/-! Plans and commands are read back from the records that are written of them. What a record leaves
out is what its reader fills in: a facet that is not stated, an empty set of facets, an absent
schema, text or size. The records of types are checked when they are read, and pass because every
type satisfies the check. Each kind of record is settled once, from the inside out; its document is
plain up to the real numbers in it, so that the same holds of its text. -/
namespace StoreBridge

namespace Document

section Members
variable {members : List (String × Option Document)} {name : String}

/-- The members of a record that have something to say. -/
def stated (members : List (String × Option Document)) : List (String × Document) :=
  members.filterMap fun (name, d) => d.map fun d => (name, d)

theorem stated_cons (name : String) (d : Option Document) :
    stated ((name, d) :: members) = (d.map fun d => (name, d)).toList ++ stated members := by
  cases d <;> rfl

theorem mem_stated {d : Document} : (name, d) ∈ stated members ↔ (name, some d) ∈ members := by
  simp [stated]

theorem filter_stated_nil (absent : name ∉ members.map (·.1)) :
    (stated members).filter (·.1 == name) = [] := by
  rw [List.filter_eq_nil_iff]
  rintro ⟨other, d⟩ among same
  have named : other = name := beq_iff_eq.mp same
  exact absent (List.mem_map.mpr ⟨(other, some d), mem_stated.mp among, named⟩)

/-- A member is the only one with its name. -/
theorem filter_stated (distinct : (members.map (·.1)).Nodup) {d : Option Document}
    (member : (name, d) ∈ members) :
    (stated members).filter (·.1 == name) = (d.map fun d => (name, d)).toList := by
  induction members with
  | nil => cases member
  | cons first members ih =>
    obtain ⟨other, e⟩ := first
    rw [List.map_cons, List.nodup_cons] at distinct
    rw [stated_cons, List.filter_append]
    rcases List.mem_cons.mp member with same | later
    · cases same
      rw [filter_stated_nil distinct.1, List.append_nil]
      cases d <;> simp
    · have different : other ≠ name := by
        rintro rfl
        exact distinct.1 (List.mem_map.mpr ⟨(other, d), later, rfl⟩)
      rw [ih distinct.2 later]
      cases e <;> simp [different]

theorem onlyMember?_stated (distinct : (members.map (·.1)).Nodup) {d : Option Document}
    (member : (name, d) ∈ members) : onlyMember? (stated members) name = some d := by
  rw [onlyMember?, filter_stated distinct member]
  cases d <;> rfl

/-- Every member of a record is found by its name, or found to be absent. -/
theorem fields?_ofMembers {names : List String} (named : members.map (·.1) = names)
    (distinct : names.Nodup) (least : Nat) (closed : Bool) :
    (ofMembers members).fields? names least closed = some (members.map (·.2)) := by
  subst named
  have known : (stated members).all fun member => (members.map (·.1)).contains member.1 := by
    rw [List.all_eq_true]
    rintro ⟨name, d⟩ among
    rw [List.contains_iff_mem]
    exact List.mem_map_of_mem (mem_stated.mp among)
  have found {part : List (String × Option Document)} (within : ∀ m ∈ part, m ∈ members) :
      (part.map (·.1)).mapM (onlyMember? (stated members)) = some (part.map (·.2)) := by
    induction part with
    | nil => rfl
    | cons member part ih =>
      have first := onlyMember?_stated distinct (within member List.mem_cons_self)
      have others := ih fun m among => within m (List.mem_cons_of_mem member among)
      simp [first, others]
  show membersNamed? _ closed (stated members) = _
  rw [membersNamed?, known, found fun _ among => among]
  simp

theorem fields?_object {members : List (String × Document)} {names : List String}
    (named : members.map (·.1) = names) (distinct : names.Nodup) (least : Nat) (closed : Bool) :
    (object members).fields? names least closed =
      some (members.map fun member => some member.2) := by
  let record := members.map fun member => (member.1, some member.2)
  have same : object members = ofMembers record := by
    simp [record, ofMembers, List.filterMap_map]
  have names : record.map (·.1) = names := by
    simp [record, ← named]
  rw [same, fields?_ofMembers names distinct]
  simp [record]

end Members

section Parts
variable {α : Type}

theorem optional?_map (read : Document → Option α) (write : α → Document)
    (back : ∀ a, read (write a) = some a) (shown : ∀ a, write a ≠ .null) (o : Option α) :
    optional? read (o.map write) = some o := by
  cases o with
  | none => rfl
  | some a =>
    rw [Option.map_some, optional?.eq_3 _ _ (shown a), back]
    rfl

theorem listOf?_map {read : Document → Option α} {write : α → Document} {items : List α}
    (back : ∀ a ∈ items, read (write a) = some a) :
    listOf? read (.list (items.map write)) = some items := by
  show (items.map write).mapM read = some items
  induction items with
  | nil => rfl
  | cons a items ih =>
    have first := back a List.mem_cons_self
    have others := ih fun b among => back b (List.mem_cons_of_mem a among)
    simp [first, others]

end Parts

section Plainness
variable {real : Binary64 → Prop}

theorem stated_names_sublist (members : List (String × Option Document)) :
    ((stated members).map (·.1)).Sublist (members.map (·.1)) := by
  induction members with
  | nil => exact .slnil
  | cons member members ih =>
    obtain ⟨name, d⟩ := member
    cases d with
    | none => exact .cons name ih
    | some d => exact .cons_cons name ih

/-- A record is plain when what its members say is. -/
theorem plain_ofMembers {members : List (String × Option Document)} (names : List String)
    (named : members.map (·.1) = names) (distinct : names.Nodup)
    (each : ∀ member ∈ members, ∀ d, member.2 = some d → Plain real d) :
    Plain real (ofMembers members) := by
  subst named
  refine .object (distinct.sublist (stated_names_sublist members)) ?_
  rintro ⟨name, d⟩ among
  exact each (name, some d) (mem_stated.mp among) d rfl

theorem plain_object {members : List (String × Document)} (names : List String)
    (named : members.map (·.1) = names) (distinct : names.Nodup)
    (each : ∀ member ∈ members, Plain real member.2) : Plain real (.object members) := by
  subst named
  exact .object distinct each

/-- A variant with data is plain when its data is. -/
theorem plain_variant {name : String} {d : Document} (plain : Plain real d) :
    Plain real (.object [(name, d)]) :=
  .object (List.nodup_singleton name) (List.forall_mem_singleton.mpr plain)

theorem plain_list {α : Type} {items : List α} {write : α → Document}
    (each : ∀ a ∈ items, Plain real (write a)) : Plain real (.list (items.map write)) := by
  refine .list fun d among => ?_
  obtain ⟨a, item, rfl⟩ := List.mem_map.mp among
  exact each a item

/-- A member that is stated only sometimes. -/
theorem plain_map {α : Type} {o : Option α} {write : α → Document}
    (each : ∀ a, Plain real (write a)) : ∀ d, o.map write = some d → Plain real d := by
  intro d shown
  obtain ⟨a, -, rfl⟩ := Option.map_eq_some_iff.mp shown
  exact each a

theorem plain_some {d : Document} (plain : Plain real d) :
    ∀ e, some d = some e → Plain real e := by
  rintro e ⟨⟩
  exact plain

theorem plain_uint8 (b : UInt8) : Plain real (.integer b.toNat) :=
  .integer (by omega) (by have := b.toNat_lt; omega)

theorem plain_uint32 (n : UInt32) : Plain real (.integer n.toNat) :=
  .integer (by omega) (by have := n.toNat_lt; omega)

end Plainness

theorem natural?_integer {greatest n : Nat} (small : n ≤ greatest) :
    natural? greatest (.integer n) = some n := by
  simp [natural?, integer?, small]

theorem uint8?_toNat (b : UInt8) : uint8? (.integer b.toNat) = some b := by
  rw [uint8?, natural?_integer (by have := b.toNat_lt; omega), Option.map_some, UInt8.ofNat_toNat]

theorem uint32?_toNat (n : UInt32) : uint32? (.integer n.toNat) = some n := by
  rw [uint32?, natural?_integer (by have := n.toNat_lt; omega), Option.map_some,
    UInt32.ofNat_toNat]

end Document

open Document

theorem Limit.ofDocument?_toDocument {α : Type} {number : α → Nat}
    {number? : Document → Option α} (back : ∀ v, number? (.integer (number v)) = some v)
    (l : Limit α) : Limit.ofDocument? number? (l.toDocument number) = some l := by
  cases l with
  | unbounded => rfl
  | bounded v =>
    show (number? (.integer (number v))).map Limit.bounded = _
    rw [back]
    rfl

theorem Limit.plain {α : Type} {real : Binary64 → Prop} {number : α → Nat}
    (plain : ∀ v, Plain real (.integer (number v))) (l : Limit α) :
    Plain real (l.toDocument number) := by
  cases l with
  | unbounded => exact .text _
  | bounded v => exact plain v

namespace Facets

theorem plain {real : Binary64 → Prop} (f : Facets) : Plain real f.toDocument := by
  refine plain_ofMembers ["max_length", "precision", "scale", "unicode",
    "fixed_length", "preserve_seconds", "nullable"] (by rfl) (by decide) ?_
  simp only [List.forall_mem_cons]
  exact ⟨plain_map (Limit.plain plain_uint32), plain_map (Limit.plain plain_uint8),
    plain_map (Limit.plain plain_uint8), plain_map .boolean, plain_map .boolean,
    plain_map .boolean, plain_map .boolean, nofun⟩

theorem ofDocument?_toDocument (f : Facets) : ofDocument? f.toDocument = some f := by
  have length := optional?_map _ _ (Limit.ofDocument?_toDocument uint32?_toNat)
    (fun l => by cases l <;> exact nofun) f.maxLength
  have digits := optional?_map _ _ (Limit.ofDocument?_toDocument uint8?_toNat)
    (fun l => by cases l <;> exact nofun)
  have flag := optional?_map boolean? .boolean (fun _ => rfl) (fun _ => nofun)
  have members : f.toDocument.fields? ["max_length", "precision", "scale", "unicode",
      "fixed_length", "preserve_seconds", "nullable"] 0 true =
        some [f.maxLength.map (Limit.toDocument UInt32.toNat),
          f.precision.map (Limit.toDocument UInt8.toNat),
          f.scale.map (Limit.toDocument UInt8.toNat), f.unicode.map .boolean,
          f.fixedLength.map .boolean, f.preserveSeconds.map .boolean,
          f.nullable.map .boolean] :=
    fields?_ofMembers (by rfl) (by decide) 0 true
  simp only [ofDocument?, members, length, digits, flag, Option.bind_eq_bind, Option.bind_some,
    Option.pure_def]

theorem toMember_returns (f : Facets) : defaulted? {} ofDocument? f.toMember = some f := by
  unfold toMember
  split
  · rename_i empty
    rw [show f = {} from beq_iff_eq.mp empty]
    rfl
  · exact ofDocument?_toDocument f

end Facets

namespace ConceptualType

/-- The record of a type with this kind and these facets, whether or not they apply to it. -/
def record (kind : Kind) (f : Facets) : Document :=
  ofMembers [("kind", some (.text kind.name)), ("facets", f.toMember)]

/-- The kind and the facets that a record states, whether or not they apply to it. -/
def stated? (tolerance : Tolerance) (d : Document) : Option (Kind × Facets) := do
  let [kind, facets] ← d.fields? ["kind", "facets"] 1 false | none
  let kind ← required? (plainVariant? tolerance Kind.ofName?) kind
  let facets ← defaulted? {} Facets.ofDocument? facets
  return (kind, facets)

theorem plain_record {real : Binary64 → Prop} (kind : Kind) (f : Facets) :
    Plain real (record kind f) := by
  refine plain_ofMembers ["kind", "facets"] (by rfl) (by decide) ?_
  simp only [List.forall_mem_cons]
  refine ⟨plain_some (.text _), ?_, nofun⟩
  intro d shown
  unfold Facets.toMember at shown
  split at shown
  · cases shown
  · cases shown
    exact f.plain

theorem stated?_record (tolerance : Tolerance) (kind : Kind) (f : Facets) :
    stated? tolerance (record kind f) = some (kind, f) := by
  have members : (record kind f).fields? ["kind", "facets"] 1 false =
      some [some (.text kind.name), f.toMember] :=
    fields?_ofMembers (by rfl) (by decide) 1 false
  have named : required? (plainVariant? tolerance Kind.ofName?) (some (.text kind.name)) =
      some kind :=
    Kind.ofName?_name kind
  simp only [stated?, members, named, Facets.toMember_returns, Option.bind_eq_bind,
    Option.bind_some, Option.pure_def]

/-- What a record states is read as a type where it makes one. -/
theorem ofDocument?_eq (tolerance : Tolerance) (d : Document) :
    ofDocument? tolerance d =
      (stated? tolerance d).bind fun stated => (make stated.1 stated.2).toOption := by
  unfold ofDocument? stated?
  cases d.fields? ["kind", "facets"] 1 false with
  | none => rfl
  | some members =>
    match members with
    | [] | [_] | _ :: _ :: _ :: _ => rfl
    | [kind, facets] =>
      simp only [Option.bind_eq_bind, Option.bind_some, Option.pure_def, Option.bind_assoc]

theorem plain {real : Binary64 → Prop} (t : ConceptualType) : Plain real t.toDocument :=
  plain_record t.kind t.facets

/-- The facets of a type pass the check that is made when they are read. -/
theorem ofDocument?_toDocument (tolerance : Tolerance) (t : ConceptualType) :
    ofDocument? tolerance t.toDocument = some t := by
  have stated : stated? tolerance t.toDocument = some (t.kind, t.facets) :=
    stated?_record tolerance t.kind t.facets
  have made : make t.kind t.facets = .ok t := (make_eq_ok_iff _ _ _).2 ⟨rfl, rfl⟩
  rw [ofDocument?_eq, stated, Option.bind_some, made]
  rfl

end ConceptualType

namespace Value

/-- The real number that a value is. -/
def reals : Value → List Binary64
  | real x => [x]
  | _ => []

theorem plain {real : Binary64 → Prop} {v : Value} (holds : ∀ x ∈ v.reals, real x) :
    Plain real v.toDocument := by
  cases v with
  | null => exact .text _
  | boolean b => exact plain_variant (.boolean b)
  | integer n =>
    have range := inRange_toInt n
    exact plain_variant (.integer range.1 (Int.lt_of_le_of_lt range.2 (by decide)))
  | real x => exact plain_variant (.real (holds x (List.mem_singleton.mpr rfl)))
  | text s => exact plain_variant (.text s)
  | blob octets => exact plain_variant (plain_list fun b _ => plain_uint8 b)
  | guid g => exact plain_variant (.text _)
  | dateTime t => exact plain_variant (.text _)

/-- A variant that is not null is read from its data. -/
theorem ofDocument?_object {tolerance : Tolerance} {name : String} {data : Document}
    (variant : plainVariant? tolerance nullOfName? (.object [(name, data)]) = none) :
    ofDocument? tolerance (.object [(name, data)]) = ofData? name data := by
  simp only [ofDocument?, variant]

theorem ofDocument?_toDocument (tolerance : Tolerance) (v : Value) :
    ofDocument? tolerance v.toDocument = some v := by
  cases v with
  | null => rfl
  | boolean | real | text => rfl
  | integer n =>
    rw [toDocument, ofDocument?_object rfl]
    simp only [ofData?, integer?, integer64?_toInt, Option.bind_some, Option.map_some]
  | blob octets =>
    rw [toDocument, ofDocument?_object rfl]
    simp only [ofData?, listOf?_map fun b _ => uint8?_toNat b, Option.map_some]
  | guid g =>
    rw [toDocument, ofDocument?_object rfl]
    simp only [ofData?, text?, Guid.ofText?_text, Option.bind_some, Option.map_some]
  | dateTime t =>
    rw [toDocument, ofDocument?_object rfl]
    simp only [ofData?, text?, DateTime.ofText?_documentText, Option.bind_some, Option.map_some]

end Value

namespace Direction

theorem ofWord?_word (d : Direction) : ofWord? d.word = some d := by
  cases d <;> decide

theorem ofSignatureWord?_signatureWord (d : Direction) :
    ofSignatureWord? d.signatureWord = some d := by
  cases d <;> decide

end Direction

theorem DbType.ofName?_name (t : DbType) : DbType.ofName? t.name = some t := by
  cases t <;> decide

theorem CommandType.ofWord?_word (t : CommandType) : CommandType.ofWord? t.word = some t := by
  cases t <;> decide

namespace DeclaredParameter

theorem plain {real : Binary64 → Prop} (p : DeclaredParameter) : Plain real p.toDocument := by
  refine plain_object ["name", "type"] (by rfl) (by decide) ?_
  simp only [List.forall_mem_cons]
  exact ⟨.text _, p.type.plain, nofun⟩

theorem ofDocument?_toDocument (tolerance : Tolerance) (p : DeclaredParameter) :
    ofDocument? tolerance p.toDocument = some p := by
  have members : p.toDocument.fields? ["name", "type"] 2 false =
      some [some (.text p.name), some p.type.toDocument] :=
    fields?_object (by rfl) (by decide) 2 false
  simp only [ofDocument?, members, required?, text?, ConceptualType.ofDocument?_toDocument,
    Option.bind_eq_bind, Option.bind_some, Option.pure_def]

end DeclaredParameter

namespace FormalParameter

theorem plain {real : Binary64 → Prop} (p : FormalParameter) : Plain real p.toDocument := by
  refine plain_object ["name", "type", "mode"] (by rfl) (by decide) ?_
  simp only [List.forall_mem_cons]
  exact ⟨.text _, p.type.plain, .text _, nofun⟩

theorem ofDocument?_toDocument (tolerance : Tolerance) (p : FormalParameter) :
    ofDocument? tolerance p.toDocument = some p := by
  have members : p.toDocument.fields? ["name", "type", "mode"] 3 false =
      some [some (.text p.name), some p.type.toDocument,
        some (.text p.direction.signatureWord)] :=
    fields?_object (by rfl) (by decide) 3 false
  simp only [ofDocument?, members, required?, text?, ConceptualType.ofDocument?_toDocument,
    plainVariant?, Direction.ofSignatureWord?_signatureWord, Option.bind_eq_bind,
    Option.bind_some, Option.pure_def]

end FormalParameter

namespace Routine

theorem plain {real : Binary64 → Prop} (r : Routine) : Plain real r.toDocument := by
  refine plain_ofMembers ["name", "schema", "command_text", "parameters"] (by rfl)
    (by decide) ?_
  simp only [List.forall_mem_cons]
  exact ⟨plain_some (.text _), plain_map .text, plain_map .text,
    plain_some (plain_list fun p _ => p.plain), nofun⟩

/-- An absent schema or text is not taken for an empty one. -/
theorem ofDocument?_toDocument (tolerance : Tolerance) (r : Routine) :
    ofDocument? tolerance r.toDocument = some r := by
  have members : r.toDocument.fields? ["name", "schema", "command_text", "parameters"] 1 false =
      some [some (.text r.name), r.schema.map .text, r.commandText.map .text,
        some (.list (r.parameters.map (·.toDocument)))] :=
    fields?_ofMembers (by rfl) (by decide) 1 false
  have text := optional?_map text? .text (fun _ => rfl) (fun _ => nofun)
  have parameters : listOf? (FormalParameter.ofDocument? tolerance)
      (.list (r.parameters.map (·.toDocument))) = some r.parameters :=
    listOf?_map fun p _ => FormalParameter.ofDocument?_toDocument tolerance p
  simp only [ofDocument?, members, required?, text?, text, defaulted?, parameters,
    Option.bind_eq_bind, Option.bind_some, Option.pure_def]

end Routine

namespace Operand

/-- The real number that an operand is. -/
def reals : Operand → List Binary64
  | constant value _ => value.reals
  | _ => []

theorem plain {real : Binary64 → Prop} {operand : Operand}
    (holds : ∀ x ∈ operand.reals, real x) : Plain real operand.toDocument := by
  cases operand with
  | parameter name => exact plain_variant (.text name)
  | null => exact .text _
  | constant value type =>
    refine plain_variant (plain_object ["value", "type"] (by rfl) (by decide) ?_)
    simp only [List.forall_mem_cons]
    exact ⟨Value.plain holds, type.plain, nofun⟩

/-- The null operand is not taken for a constant whose value is null. -/
theorem ofDocument?_toDocument (tolerance : Tolerance) (operand : Operand) :
    ofDocument? tolerance operand.toDocument = some operand := by
  cases operand with
  | parameter name => rfl
  | null => rfl
  | constant value type =>
    have members : (Document.object [("value", value.toDocument),
        ("type", type.toDocument)]).fields? ["value", "type"] 2 false =
          some [some value.toDocument, some type.toDocument] :=
      fields?_object (by rfl) (by decide) 2 false
    show constantOfDocument? tolerance (.object _) = _
    simp only [constantOfDocument?, members, required?, Value.ofDocument?_toDocument,
      ConceptualType.ofDocument?_toDocument, Option.bind_eq_bind, Option.bind_some,
      Option.pure_def]

end Operand

namespace Clause

theorem plain {real : Binary64 → Prop} {c : Clause} (holds : ∀ x ∈ c.operand.reals, real x) :
    Plain real c.toDocument := by
  refine plain_object ["column", "value"] (by rfl) (by decide) ?_
  simp only [List.forall_mem_cons]
  exact ⟨.text _, Operand.plain holds, nofun⟩

theorem ofDocument?_toDocument (tolerance : Tolerance) (c : Clause) :
    ofDocument? tolerance c.toDocument = some c := by
  have members : c.toDocument.fields? ["column", "value"] 2 false =
      some [some (.text c.column), some c.operand.toDocument] :=
    fields?_object (by rfl) (by decide) 2 false
  simp only [ofDocument?, members, required?, text?, Operand.ofDocument?_toDocument,
    Option.bind_eq_bind, Option.bind_some, Option.pure_def]

end Clause

namespace CommandBody

/-- The clauses of a body, assignments in front of conditions. -/
def allClauses : CommandBody → List Clause
  | query _ _ filter => filter
  | insert _ values => values
  | update _ values filter => values ++ filter
  | delete _ filter => filter
  | function _ => []

/-- The real numbers among the constants of a body. -/
def reals (b : CommandBody) : List Binary64 :=
  b.allClauses.flatMap (·.operand.reals)

theorem plain_clauses {real : Binary64 → Prop} {cs : List Clause}
    (holds : ∀ c ∈ cs, ∀ x ∈ c.operand.reals, real x) : Plain real (clauses cs) :=
  plain_list fun c among => Clause.plain (holds c among)

theorem plain {real : Binary64 → Prop} {b : CommandBody} (holds : ∀ x ∈ b.reals, real x) :
    Plain real b.toDocument := by
  have among {c : Clause} (clause : c ∈ b.allClauses) : ∀ x ∈ c.operand.reals, real x :=
    fun x value => holds x (List.mem_flatMap.mpr ⟨c, clause, value⟩)
  have columns (names : List String) : Plain real (.list (names.map .text)) :=
    plain_list fun name _ => .text name
  cases b with
  | query table names filter =>
    refine plain_object ["kind", "table", "columns", "filter"] (by rfl) (by decide) ?_
    simp only [members, List.forall_mem_cons]
    exact ⟨.text _, .text _, columns names, plain_clauses fun _ => among, nofun⟩
  | insert table values =>
    refine plain_object ["kind", "table", "values"] (by rfl) (by decide) ?_
    simp only [members, List.forall_mem_cons]
    exact ⟨.text _, .text _, plain_clauses fun _ => among, nofun⟩
  | update table values filter =>
    refine plain_object ["kind", "table", "values", "filter"] (by rfl) (by decide) ?_
    simp only [members, List.forall_mem_cons]
    exact ⟨.text _, .text _,
      plain_clauses fun _ clause => among (List.mem_append_left filter clause),
      plain_clauses fun _ clause => among (List.mem_append_right values clause), nofun⟩
  | delete table filter =>
    refine plain_object ["kind", "table", "filter"] (by rfl) (by decide) ?_
    simp only [members, List.forall_mem_cons]
    exact ⟨.text _, .text _, plain_clauses fun _ => among, nofun⟩
  | function r =>
    refine plain_object ["kind", "routine"] (by rfl) (by decide) ?_
    simp only [members, List.forall_mem_cons]
    exact ⟨.text _, r.plain, nofun⟩

theorem clauses?_clauses (cs : List Clause) : clauses? (clauses cs) = some cs :=
  listOf?_map fun c _ => Clause.ofDocument?_toDocument .tolerant c

/-- What the members of a body are read as, once its kind is known. -/
theorem ofMembers?_members (b : CommandBody) :
    ofMembers? b.word (.object b.members) = some b := by
  have column (names : List String) : listOf? text? (.list (names.map .text)) = some names :=
    listOf?_map fun _ _ => rfl
  cases b with
  | query table names filter =>
    have found : (Document.object (query table names filter).members).fields?
        ["table", "columns", "filter"] 1 false =
          some [some (.text table), some (.list (names.map .text)), some (clauses filter)] :=
      fields?_object (by rfl) (by decide) 1 false
    simp only [word, ofMembers?, found, required?, text?, defaulted?, column, clauses?_clauses,
      Option.bind_eq_bind, Option.bind_some, Option.pure_def]
  | insert table values =>
    have found : (Document.object (insert table values).members).fields? ["table", "values"] 1
        false = some [some (.text table), some (clauses values)] :=
      fields?_object (by rfl) (by decide) 1 false
    simp only [word, ofMembers?, found, required?, text?, defaulted?, clauses?_clauses,
      Option.bind_eq_bind, Option.bind_some, Option.pure_def]
  | update table values filter =>
    have found : (Document.object (update table values filter).members).fields?
        ["table", "values", "filter"] 2 false =
          some [some (.text table), some (clauses values), some (clauses filter)] :=
      fields?_object (by rfl) (by decide) 2 false
    simp only [word, ofMembers?, found, required?, text?, defaulted?, clauses?_clauses,
      Option.bind_eq_bind, Option.bind_some, Option.pure_def]
  | delete table filter =>
    have found : (Document.object (delete table filter).members).fields? ["table", "filter"] 1
        false = some [some (.text table), some (clauses filter)] :=
      fields?_object (by rfl) (by decide) 1 false
    simp only [word, ofMembers?, found, required?, text?, defaulted?, clauses?_clauses,
      Option.bind_eq_bind, Option.bind_some, Option.pure_def]
  | function r =>
    have found : (Document.object (function r).members).fields? ["routine"] 1 false =
        some [some r.toDocument] :=
      fields?_object (by rfl) (by decide) 1 false
    simp only [word, ofMembers?, found, required?, Routine.ofDocument?_toDocument,
      Option.bind_eq_bind, Option.bind_some, Option.pure_def]

/-- No member of a body takes the name of the one that tells its kind. -/
theorem members_names (b : CommandBody) : ∀ member ∈ b.members, member.1 ≠ "kind" := by
  cases b <;> simp [members]

/-- A body is read from its record, whichever of the five it is. -/
theorem ofDocument?_toDocument (b : CommandBody) : ofDocument? b.toDocument = some b := by
  have level : b.toDocument.levelled = b.toDocument :=
    Plain.levelled_eq (plain fun _ _ => trivial : Plain (fun _ => True) b.toDocument)
  have others : b.members.filter (·.1 != "kind") = b.members := by
    rw [List.filter_eq_self]
    intro member among
    exact bne_iff_ne.mpr (members_names b member among)
  have none : b.members.filter (·.1 == "kind") = [] := by
    rw [List.filter_eq_nil_iff]
    intro member among same
    exact members_names b member among (beq_iff_eq.mp same)
  have kind : onlyMember? (("kind", .text b.word) :: b.members) "kind" =
      some (some (.text b.word)) := by
    simp [onlyMember?, none]
  rw [ofDocument?, level]
  simp only [toDocument, kind, required?, text?, Option.bind_eq_bind, Option.bind_some]
  simp [others, ofMembers?_members]

end CommandBody

namespace CommandTree

/-- The real numbers among the constants of a tree. -/
def reals (tree : CommandTree) : List Binary64 :=
  tree.body.reals

theorem plain {real : Binary64 → Prop} {tree : CommandTree} (holds : ∀ x ∈ tree.reals, real x) :
    Plain real tree.toDocument := by
  refine plain_object ["parameters", "body"] (by rfl) (by decide) ?_
  simp only [List.forall_mem_cons]
  exact ⟨plain_list fun p _ => p.plain, CommandBody.plain holds, nofun⟩

/-- A command tree is read from its record. -/
theorem ofDocument?_toDocument (tolerance : Tolerance) (tree : CommandTree) :
    ofDocument? tolerance tree.toDocument = some tree := by
  have members : tree.toDocument.fields? ["parameters", "body"] 2 false =
      some [some (.list (tree.parameters.map (·.toDocument))), some tree.body.toDocument] :=
    fields?_object (by rfl) (by decide) 2 false
  have parameters : listOf? (DeclaredParameter.ofDocument? tolerance)
      (.list (tree.parameters.map (·.toDocument))) = some tree.parameters :=
    listOf?_map fun p _ => DeclaredParameter.ofDocument?_toDocument tolerance p
  simp only [ofDocument?, members, required?, defaulted?, parameters,
    CommandBody.ofDocument?_toDocument, Option.bind_eq_bind, Option.bind_some, Option.pure_def]

end CommandTree

namespace Parameter

theorem plain {real : Binary64 → Prop} {p : Parameter} (holds : ∀ x ∈ p.value.reals, real x) :
    Plain real p.toDocument := by
  refine plain_ofMembers ["name", "direction", "db_type", "size", "is_nullable",
    "value"] (by rfl) (by decide) ?_
  simp only [List.forall_mem_cons]
  exact ⟨plain_some (.text _), plain_some (.text _), plain_some (.text _),
    plain_map plain_uint32, plain_some (.boolean _), plain_some (Value.plain holds), nofun⟩

/-- A parameter without a size is read as one without a size. -/
theorem ofDocument?_toDocument (tolerance : Tolerance) (p : Parameter) :
    ofDocument? tolerance p.toDocument = some p := by
  have members : p.toDocument.fields? ["name", "direction", "db_type", "size", "is_nullable",
      "value"] 5 false =
        some [some (.text p.name), some (.text p.direction.word), some (.text p.dbType.name),
          p.size.map fun n => .integer n.toNat, some (.boolean p.isNullable),
          some p.value.toDocument] :=
    fields?_ofMembers (by rfl) (by decide) 5 false
  have size := optional?_map _ _ uint32?_toNat (fun _ => nofun) p.size
  simp only [ofDocument?, members, required?, text?, boolean?, plainVariant?,
    Direction.ofWord?_word, DbType.ofName?_name, size, defaulted?, Value.ofDocument?_toDocument,
    Option.bind_eq_bind, Option.bind_some, Option.pure_def]

end Parameter

namespace Command

/-- The real numbers among the values of a command. -/
def reals (c : Command) : List Binary64 :=
  c.parameters.flatMap (·.value.reals)

theorem plain {real : Binary64 → Prop} {c : Command} (holds : ∀ x ∈ c.reals, real x) :
    Plain real c.toDocument := by
  refine plain_object ["sql_text", "command_type", "parameters"] (by rfl)
    (by decide) ?_
  simp only [List.forall_mem_cons]
  refine ⟨.text _, .text _, plain_list fun p among => Parameter.plain fun x value => ?_, nofun⟩
  exact holds x (List.mem_flatMap.mpr ⟨p, among, value⟩)

/-- A compiled command is read from its record. -/
theorem ofDocument?_toDocument (tolerance : Tolerance) (c : Command) :
    ofDocument? tolerance c.toDocument = some c := by
  have members : c.toDocument.fields? ["sql_text", "command_type", "parameters"] 3 false =
      some [some (.text c.text), some (.text c.type.word),
        some (.list (c.parameters.map (·.toDocument)))] :=
    fields?_object (by rfl) (by decide) 3 false
  have parameters : listOf? (Parameter.ofDocument? tolerance)
      (.list (c.parameters.map (·.toDocument))) = some c.parameters :=
    listOf?_map fun p _ => Parameter.ofDocument?_toDocument tolerance p
  simp only [ofDocument?, members, required?, text?, plainVariant?, CommandType.ofWord?_word,
    parameters, Option.bind_eq_bind, Option.bind_some, Option.pure_def]

end Command

/-- No two trees have one record: what a record leaves out could not have stood for anything else. -/
theorem CommandTree.toDocument_injective {a b : CommandTree} (same : a.toDocument = b.toDocument) :
    a = b := by
  have back := CommandTree.ofDocument?_toDocument .strict a
  rw [same, CommandTree.ofDocument?_toDocument .strict b] at back
  exact (Option.some.inj back).symm

theorem Command.toDocument_injective {a b : Command} (same : a.toDocument = b.toDocument) :
    a = b := by
  have back := Command.ofDocument?_toDocument .strict a
  rw [same, Command.ofDocument?_toDocument .strict b] at back
  exact (Option.some.inj back).symm

/-- Trees and commands are read back from the texts of their records, on one line or on many, when
their real numbers are finite and finite numbers are read back from their own texts. -/
theorem record_texts_return (tolerance : Tolerance) {write : Document → String}
    (json : write = Json.compact ∨ write = Json.pretty) :
    (∀ tree : CommandTree, (∀ x ∈ tree.reals, x.isFinite = true) →
      (∀ x ∈ tree.reals, x.isFinite = true → Json.ReadsBack x) →
        (Json.read? (write tree.toDocument)).bind (CommandTree.ofDocument? tolerance) =
          some tree) ∧
      ∀ c : Command, (∀ x ∈ c.reals, x.isFinite = true) →
        (∀ x ∈ c.reals, x.isFinite = true → Json.ReadsBack x) →
          (Json.read? (write c.toDocument)).bind (Command.ofDocument? tolerance) = some c := by
  constructor
  · intro tree finite numbers
    have plain : Plain Json.Legible tree.toDocument :=
      CommandTree.plain fun x among => ⟨finite x among, numbers x among (finite x among)⟩
    rw [Json.read?_written json plain, Option.bind_some, CommandTree.ofDocument?_toDocument]
  · intro c finite numbers
    have plain : Plain Json.Legible c.toDocument :=
      Command.plain fun x among => ⟨finite x among, numbers x among (finite x among)⟩
    rw [Json.read?_written json plain, Option.bind_some, Command.ofDocument?_toDocument]

/-- The number 1.5 is read back, and with it a tree that sets a column to it, one to a constant
whose value is null and one to null, and a command without sizes. -/
theorem record_texts_return_nulls :
    let rate : Value := .real ⟨0x3FF8000000000000⟩
    let tree : CommandTree := ⟨[⟨"id", .ofKind .int64⟩], .update "orders"
      [⟨"rate", .constant rate (.ofKind .double)⟩,
        ⟨"total", .constant .null .decimalDefault⟩, ⟨"note", .null⟩] [⟨"id", .parameter "id"⟩]⟩
    let c : Command := ⟨"UPDATE \"orders\" SET \"rate\" = @rate", .text,
      [.derived "rate" (.ofKind .double) .input rate]⟩
    (Json.read? (Json.compact tree.toDocument)).bind (CommandTree.ofDocument? .strict) =
        some tree ∧
      (Json.read? (Json.compact c.toDocument)).bind (Command.ofDocument? .strict) = some c := by
  have text : Json.compact (.real ⟨0x3FF8000000000000⟩) = "1.5" := by decide +kernel
  have back : Json.ReadsBack ⟨0x3FF8000000000000⟩ := by
    rw [Json.ReadsBack, text]
    rfl
  intro rate tree c
  have treeReals : tree.reals = [⟨0x3FF8000000000000⟩] := rfl
  have reals : c.reals = [⟨0x3FF8000000000000⟩] := rfl
  refine ⟨(record_texts_return .strict (.inl rfl)).1 tree ?_ ?_,
    (record_texts_return .strict (.inl rfl)).2 c ?_ ?_⟩
  · rw [treeReals, List.forall_mem_singleton]
    decide
  · rw [treeReals, List.forall_mem_singleton]
    exact fun _ => back
  · rw [reals, List.forall_mem_singleton]
    decide
  · rw [reals, List.forall_mem_singleton]
    exact fun _ => back

end StoreBridge

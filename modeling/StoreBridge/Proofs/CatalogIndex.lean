import Mathlib.Data.List.Basic
import StoreBridge.Catalog.Record

/-! Loading a catalog, and looking names up in it. Loading fails at the first entry whose name
repeats an earlier one up to case, and otherwise keeps the entries as they are listed; a name then
finds the only entry that has it. The same is decided by an index of positions that is filled entry
by entry: each step finds out whether the name is filed already, and what the steps keep is that the
index holds the positions of all names so far, and no others. -/
namespace StoreBridge
open Text Document

section Distinct

/-- What a name finds among distinct ones is all that has the name. -/
theorem filter_sameName {entries : List CatalogEntry} (distinct : DistinctNames entries)
    (name : String) :
    entries.filter (sameName ·.name name) = (entries.find? (sameName ·.name name)).toList := by
  induction entries with
  | nil => rfl
  | cons a rest ih =>
    obtain ⟨first, others⟩ := List.pairwise_cons.mp distinct
    cases here : sameName a.name name with
    | false =>
      rw [List.filter_cons_of_neg (by simp [here]), List.find?_cons_of_neg (by simp [here])]
      exact ih others
    | true =>
      have behind : rest.filter (sameName ·.name name) = [] := by
        refine List.filter_eq_nil_iff.mpr fun b later there => ?_
        have same : sameName a.name b.name = true :=
          (sameName_iff _ _).mpr
            (((sameName_iff _ _).mp here).trans ((sameName_iff _ _).mp there).symm)
        rw [first b later] at same
        cases same
      rw [List.filter_cons_of_pos (by simp [here]), List.find?_cons_of_pos (by simp [here]), behind]
      rfl

/-- Entries in front that repeat no name are passed over. -/
theorem firstRepeat?_front {front : List CatalogEntry} (distinct : DistinctNames front)
    {seen : List String} (fresh : ∀ e ∈ front, ∀ s ∈ seen, sameName s e.name = false)
    (behind : List CatalogEntry) :
    firstRepeat? seen (front ++ behind) =
      firstRepeat? ((front.map (·.name)).reverse ++ seen) behind := by
  induction front generalizing seen with
  | nil => rfl
  | cons a front ih =>
    obtain ⟨first, others⟩ := List.pairwise_cons.mp distinct
    have unseen : seen.any (sameName · a.name) = false := by
      simpa using fresh a List.mem_cons_self
    have later : ∀ e ∈ front, ∀ s ∈ a.name :: seen, sameName s e.name = false := by
      intro e among s known
      rcases List.mem_cons.mp known with rfl | known
      · exact first e among
      · exact fresh e (List.mem_cons_of_mem a among) s known
    rw [List.cons_append, firstRepeat?, unseen, if_neg Bool.false_ne_true, ih others later,
      List.map_cons, List.reverse_cons, List.append_assoc, List.singleton_append]

/-- The first entry that repeats a name is found, whatever follows it. -/
theorem firstRepeat?_repeated {front behind : List CatalogEntry} {e : CatalogEntry}
    (distinct : DistinctNames front) (again : ∃ a ∈ front, sameName a.name e.name = true) :
    firstRepeat? [] (front ++ e :: behind) = some e := by
  have fresh : ∀ x ∈ front, ∀ s ∈ ([] : List String), sameName s x.name = false :=
    fun _ _ _ none => nomatch none
  have known : (front.map (·.name)).reverse.any (sameName · e.name) = true := by
    simpa using again
  rw [firstRepeat?_front distinct fresh, List.append_nil, firstRepeat?, known, if_pos rfl]

end Distinct

namespace Catalog

/-- The positions of entries by their names in small letters. -/
abbrev Index := Std.HashMap String Nat

/-- Files entries at positions from `next` on, and ends at one whose name is filed already. -/
def fileAll : Index → (next : Nat) → List CatalogEntry → Except Failure Index
  | index, _, [] => .ok index
  | index, next, e :: rest =>
    let (known, index) := index.containsThenInsert (lower e.name) next
    if known then .error (.storeTypeRepeated e.name) else fileAll index (next + 1) rest

/-- An index holds the positions of all names of these entries, and no others. -/
def Files (index : Index) (entries : List CatalogEntry) : Prop :=
  ∀ name i, index[name]? = some i ↔ ∃ e, entries[i]? = some e ∧ lower e.name = name

/-- What filing entries comes to. -/
inductive Filing (entries : List CatalogEntry) : Except Failure Index → Prop where
  | filed {index : Index} (files : Files index entries) : Filing entries (.ok index)
  | repeated {front behind : List CatalogEntry} {e : CatalogEntry}
      (split : entries = front ++ e :: behind) (distinct : DistinctNames front)
      (again : ∃ a ∈ front, sameName a.name e.name = true) :
      Filing entries (.error (.storeTypeRepeated e.name))

section Filed
variable {index : Index} {entries front behind : List CatalogEntry} {e : CatalogEntry}

theorem files_nothing : Files ∅ [] := by
  intro name i
  simp

/-- A name is filed exactly when one of the entries has it. -/
theorem Files.contains_iff (files : Files index front) (name : String) :
    index.contains (lower name) = true ↔ ∃ a ∈ front, sameName a.name name = true := by
  rw [Std.HashMap.contains_eq_isSome_getElem?, Option.isSome_iff_exists]
  constructor
  · rintro ⟨i, filed⟩
    obtain ⟨a, here, same⟩ := (files _ i).mp filed
    exact ⟨a, List.mem_of_getElem? here, (sameName_iff _ _).mpr same⟩
  · rintro ⟨a, among, same⟩
    obtain ⟨i, here⟩ := List.mem_iff_getElem?.mp among
    exact ⟨i, (files _ i).mpr ⟨a, here, (sameName_iff _ _).mp same⟩⟩

/-- An entry with a new name is filed behind the others. -/
theorem Files.snoc (files : Files index front) (fresh : index.contains (lower e.name) = false) :
    Files (index.insert (lower e.name) front.length) (front ++ [e]) := by
  intro name i
  rw [Std.HashMap.getElem?_insert]
  by_cases own : lower e.name = name
  · rw [if_pos (beq_iff_eq.mpr own)]
    constructor
    · rintro ⟨⟩
      exact ⟨e, by simp, own⟩
    · rintro ⟨a, here, same⟩
      -- No entry in front has the name, so it is the one at the end.
      rcases Nat.lt_or_ge i front.length with before | after
      · rw [List.getElem?_append_left before] at here
        have known : index.contains (lower e.name) = true := by
          refine (files.contains_iff e.name).mpr ⟨a, List.mem_of_getElem? here, ?_⟩
          exact (sameName_iff _ _).mpr (same.trans own.symm)
        rw [fresh] at known
        cases known
      · have within := (List.getElem?_eq_some_iff.mp here).1
        rw [List.length_append, List.length_singleton] at within
        exact congrArg some (by omega)
  · rw [if_neg (mt beq_iff_eq.mp own), files name i]
    constructor
    · rintro ⟨a, here, same⟩
      have before := (List.getElem?_eq_some_iff.mp here).1
      exact ⟨a, (List.getElem?_append_left before).trans here, same⟩
    · rintro ⟨a, here, same⟩
      rcases Nat.lt_or_ge i front.length with before | after
      · exact ⟨a, (List.getElem?_append_left before).symm.trans here, same⟩
      · rw [List.getElem?_append_right after] at here
        have last := List.mem_singleton.mp (List.mem_of_getElem? here)
        exact absurd (last ▸ same) own

/-- Two entries of one name would need two positions under it. -/
theorem Files.distinct (files : Files index entries) : DistinctNames entries := by
  refine List.pairwise_iff_getElem.mpr fun i j before within less => ?_
  cases same : sameName entries[i].name entries[j].name with
  | false => rfl
  | true =>
    have first := (files _ i).mpr ⟨_, List.getElem?_eq_getElem before, (sameName_iff _ _).mp same⟩
    have second := (files _ j).mpr ⟨_, List.getElem?_eq_getElem within, rfl⟩
    rw [first] at second
    exact absurd (Option.some.inj second) (Nat.ne_of_lt less)

/-- The position under a name is that of the entry which the name finds. -/
theorem Files.find?_eq (files : Files index entries) (name : String) :
    entries.find? (sameName ·.name name) = index[lower name]?.bind (entries[·]?) := by
  cases filed : index[lower name]? with
  | none =>
    refine List.find?_eq_none.mpr fun a among same => ?_
    obtain ⟨i, here⟩ := List.mem_iff_getElem?.mp among
    have known := (files _ i).mpr ⟨a, here, (sameName_iff _ _).mp same⟩
    rw [filed] at known
    cases known
  | some i =>
    obtain ⟨a, here, same⟩ := (files _ i).mp filed
    have listed : a ∈ entries.filter (sameName ·.name name) :=
      List.mem_filter.mpr ⟨List.mem_of_getElem? here, (sameName_iff _ _).mpr same⟩
    rw [filter_sameName files.distinct, Option.mem_toList] at listed
    rw [Option.bind_some, here]
    exact listed

theorem fileAll_cons (index : Index) (next : Nat) (e : CatalogEntry) (rest : List CatalogEntry) :
    fileAll index next (e :: rest) =
      if index.contains (lower e.name) then .error (.storeTypeRepeated e.name)
      else fileAll (index.insert (lower e.name) next) (next + 1) rest := by
  rw [← Std.HashMap.containsThenInsert_fst, ← Std.HashMap.containsThenInsert_snd]
  rfl

/-- From the entries that are filed on, filing goes on to the end or to the first name again. -/
theorem fileAll_from (files : Files index front) (behind : List CatalogEntry) :
    Filing (front ++ behind) (fileAll index front.length behind) := by
  induction behind generalizing index front with
  | nil =>
    rw [List.append_nil]
    exact .filed files
  | cons e behind ih =>
    rw [fileAll_cons]
    cases known : index.contains (lower e.name) with
    | true => exact .repeated rfl files.distinct ((files.contains_iff e.name).mp known)
    | false =>
      have rest := ih (files.snoc known)
      rw [List.length_append, List.append_assoc] at rest
      exact rest

theorem fileAll_filing (entries : List CatalogEntry) : Filing entries (fileAll ∅ 0 entries) :=
  fileAll_from files_nothing entries

end Filed

/-- A catalog is an index of the list that a manifest states: it keeps the list, and each name finds
the only entry that has it up to case, which is the one at the position that is filed under it. -/
structure Indexes (m : Manifest) (c : Catalog) : Prop where
  title : c.title = m.title
  version : c.version = m.version
  entries : c.entries = m.entries
  found : ∀ name e, c.find? name = some e ↔ m.entries.filter (sameName ·.name name) = [e]
  missing : ∀ name, c.find? name = none ↔ ∀ e ∈ m.entries, sameName e.name name = false
  required : ∀ name e, c.require name = .ok e ↔ c.find? name = some e
  refused : ∀ name failure, c.require name = .error failure ↔
    c.find? name = none ∧ failure = .storeTypeMissing name m.title
  filed : ∃ index, fileAll ∅ 0 m.entries = .ok index ∧
    ∀ name, c.find? name = index[lower name]?.bind (m.entries[·]?)

/-- What loading a manifest comes to. -/
inductive Loading (m : Manifest) : Except Failure Catalog → Prop where
  | loaded {c : Catalog} (indexes : Indexes m c) : Loading m (.ok c)
  | repeated {front behind : List CatalogEntry} {e : CatalogEntry}
      (split : m.entries = front ++ e :: behind) (distinct : DistinctNames front)
      (again : ∃ a ∈ front, sameName a.name e.name = true) :
      Loading m (.error (.storeTypeRepeated e.name))

section Loaded
variable {m : Manifest} {text : String} {documents : List String}

theorem require_eq (c : Catalog) (name : String) :
    c.require name = (c.find? name).elim (.error (.storeTypeMissing name c.title)) .ok := by
  unfold require
  cases c.find? name <;> rfl

/-- A catalog of entries that an index files indexes them. -/
theorem indexes_of_files {index : Index} (filed : fileAll ∅ 0 m.entries = .ok index)
    (files : Files index m.entries) :
    Indexes m ⟨m.title, m.version, m.entries, files.distinct⟩ where
  title := rfl
  version := rfl
  entries := rfl
  found := by
    intro name e
    rw [filter_sameName files.distinct, Option.toList_eq_singleton_iff]
    rfl
  missing := by
    intro name
    show m.entries.find? _ = none ↔ _
    rw [List.find?_eq_none]
    simp
  required := by
    intro name e
    rw [require_eq]
    cases find? _ name <;> simp
  refused := by
    intro name failure
    rw [require_eq]
    cases find? _ name <;> simp [eq_comm]
  filed := ⟨index, filed, files.find?_eq⟩

theorem ofEntries_distinct (title : String) (version : UInt32) {entries : List CatalogEntry}
    (distinct : DistinctNames entries) :
    ofEntries title version entries = .ok ⟨title, version, entries, distinct⟩ := by
  have none : firstRepeat? [] entries = none :=
    (firstRepeat?_eq_none_iff [] entries).mpr ⟨distinct, fun _ _ _ seen => nomatch seen⟩
  unfold ofEntries
  split
  · rename_i e repeated
    rw [none] at repeated
    cases repeated
  · rfl

theorem ofEntries_repeated (title : String) (version : UInt32)
    {front behind : List CatalogEntry} {e : CatalogEntry} (distinct : DistinctNames front)
    (again : ∃ a ∈ front, sameName a.name e.name = true) :
    ofEntries title version (front ++ e :: behind) = .error (.storeTypeRepeated e.name) := by
  have first : firstRepeat? [] (front ++ e :: behind) = some e :=
    firstRepeat?_repeated distinct again
  unfold ofEntries
  split
  · rename_i other repeated
    rw [first] at repeated
    cases repeated
    rfl
  · rename_i none
    rw [first] at none
    cases none

theorem Loading.ofEntries_eq {result : Except Failure Catalog} (loading : Loading m result) :
    ofEntries m.title m.version m.entries = result := by
  cases loading with
  | @loaded c indexes =>
    obtain ⟨title, version, entries, distinct⟩ := c
    obtain rfl : title = m.title := indexes.title
    obtain rfl : version = m.version := indexes.version
    obtain rfl : entries = m.entries := indexes.entries
    exact ofEntries_distinct ..
  | repeated split distinct again =>
    rw [split]
    exact ofEntries_repeated _ _ distinct again

theorem ofEntries_loading (m : Manifest) : Loading m (ofEntries m.title m.version m.entries) := by
  cases filing : fileAll ∅ 0 m.entries with
  | ok index =>
    have outcome := fileAll_filing m.entries
    rw [filing] at outcome
    cases outcome with
    | filed files =>
      have loading := Loading.loaded (indexes_of_files filing files)
      exact loading.ofEntries_eq ▸ loading
  | error failure =>
    have outcome := fileAll_filing m.entries
    rw [filing] at outcome
    cases outcome with
    | repeated split distinct again =>
      have loading := Loading.repeated split distinct again
      exact loading.ofEntries_eq ▸ loading

/-- Filing fails where making a catalog does, and in the same way. -/
theorem ofEntries_error_iff (title : String) (version : UInt32) (entries : List CatalogEntry)
    (failure : Failure) :
    ofEntries title version entries = .error failure ↔ fileAll ∅ 0 entries = .error failure := by
  have outcome := fileAll_filing entries
  cases filing : fileAll ∅ 0 entries with
  | ok index =>
    rw [filing] at outcome
    cases outcome with
    | filed files => simp [ofEntries_distinct title version files.distinct]
  | error first =>
    rw [filing] at outcome
    cases outcome with
    | repeated split distinct again =>
      rw [split, ofEntries_repeated title version distinct again, Except.error.injEq,
        Except.error.injEq]

theorem load_eq (parsed : (Toml.read? text).bind Manifest.ofDocument? = some m)
    (wellFormed : ∀ d ∈ documents, Toml.isDocument d = true) :
    load text documents = ofEntries m.title m.version m.entries := by
  have all : documents.all Toml.isDocument = true := List.all_eq_true.mpr wellFormed
  rw [load, parsed]
  exact if_pos all

/-- A manifest whose types can be read is loaded exactly when no two of them have one name up to
case. What is loaded indexes the types as they are listed, and otherwise the first type whose name
repeats an earlier one is reported; filing the types one after the other comes to the same. -/
theorem load_indexes (parsed : (Toml.read? text).bind Manifest.ofDocument? = some m)
    (wellFormed : ∀ d ∈ documents, Toml.isDocument d = true) :
    ((∃ c, load text documents = .ok c) ↔ DistinctNames m.entries) ∧
      (∀ result, load text documents = result ↔ Loading m result) ∧
      (∀ failure, load text documents = .error failure ↔
        fileAll ∅ 0 m.entries = .error failure) ∧
      (∀ failure, load text documents = .error failure →
        failure.category = .providerIncompatible) ∧
      ∀ name, (Failure.storeTypeMissing name m.title).category = .providerIncompatible := by
  rw [load_eq parsed wellFormed]
  have loading := ofEntries_loading m
  refine ⟨⟨?_, fun distinct => ⟨_, ofEntries_distinct _ _ distinct⟩⟩,
    fun result => ⟨fun ended => ended ▸ loading, Loading.ofEntries_eq⟩,
    ofEntries_error_iff m.title m.version m.entries, ?_, fun _ => rfl⟩
  · rintro ⟨c, loaded⟩
    rw [loaded] at loading
    cases loading with
    | loaded indexes => exact indexes.entries ▸ c.distinct
  · intro failure failed
    rw [failed] at loading
    cases loading with
    | repeated => rfl

/-- Of four types the third is the first to repeat a name, and of the two in front of it there is an
index. -/
theorem load_indexes_repeated :
    let type (name kind : String) : String :=
      "[[types]]\nname = \"" ++ name ++ "\"\nprimitive = \"" ++ kind ++ "\"\n"
    let two := "version = 1\nnamespace = \"Test\"\n" ++ type "int" "Int32" ++ type "Text" "String"
    let four := two ++ type "INT" "Int64" ++ type "TEXT" "String"
    let int : CatalogEntry := { name := "int", kind := .int32 }
    let text : CatalogEntry := { name := "Text", kind := .string }
    load four ["a = 1"] = .error (.storeTypeRepeated "INT") ∧
      ∃ c, load two ["a = 1"] = .ok c ∧ Indexes ⟨1, "Test", [int, text]⟩ c ∧
        c.find? "tEXT" = some text ∧ c.find? "real" = none := by
  intro type two four int text
  let again : CatalogEntry := { name := "INT", kind := .int64 }
  let last : CatalogEntry := { name := "TEXT", kind := .string }
  have wellFormed : ∀ d ∈ ["a = 1"], Toml.isDocument d = true := by decide +kernel
  have parsedFour : (Toml.read? four).bind Manifest.ofDocument? =
      some ⟨1, "Test", [int, text] ++ again :: [last]⟩ := by decide +kernel
  have parsedTwo : (Toml.read? two).bind Manifest.ofDocument? = some ⟨1, "Test", [int, text]⟩ := by
    decide +kernel
  have distinct : DistinctNames [int, text] := by decide +kernel
  have repeats : ∃ a ∈ [int, text], sameName a.name again.name = true :=
    ⟨int, List.mem_cons_self, by decide +kernel⟩
  obtain ⟨-, outcomes, -⟩ := load_indexes parsedFour wellFormed
  obtain ⟨loads, outcome, -⟩ := load_indexes parsedTwo wellFormed
  refine ⟨(outcomes _).mpr (.repeated rfl distinct repeats), ?_⟩
  obtain ⟨c, loaded⟩ := loads.mpr distinct
  refine ⟨c, loaded, ?_⟩
  cases (outcome _).mp loaded with
  | loaded indexes =>
    exact ⟨indexes, (indexes.found _ _).mpr (by decide +kernel),
      (indexes.missing _).mpr (by decide +kernel)⟩

end Loaded
end Catalog
end StoreBridge

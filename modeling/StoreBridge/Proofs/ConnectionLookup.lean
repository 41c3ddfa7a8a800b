import StoreBridge.Config
import StoreBridge.Proofs.Splitting
import StoreBridge.Proofs.Trimming

/-! Connection strings. Between the semicolons stand pairs, each a key and a value around the first
equals sign, and texts without one, which say nothing. A key is looked up among the pairs alone: the
first one that has it decides, in whatever case it is written and whatever blanks are around it and
around its value. Every text is such a string, so that this says what each look-up comes to, and
what the manifest token is for each configuration. -/
namespace StoreBridge
open Text

/-- A key and its value. The value may have further equals signs in it. -/
structure ConnectionPair where
  key : String
  value : String
  keyOutside : ';' ∉ key.toList ∧ '=' ∉ key.toList
  valueOutside : ';' ∉ value.toList

/-- What may stand between two semicolons. -/
inductive ConnectionPart where
  | pair (p : ConnectionPair)
  | loose (text : String) (outside : ';' ∉ text.toList ∧ '=' ∉ text.toList)

/-- The pair of a part, if it is one. -/
def ConnectionPart.pair? : ConnectionPart → Option ConnectionPair
  | pair p => some p
  | loose _ _ => none

/-- The pairs among the parts, in their order. -/
def pairsOf (parts : List ConnectionPart) : List ConnectionPair :=
  parts.filterMap ConnectionPart.pair?

/-- The ways to write a part. There may be blanks around the key and around the value. -/
inductive ConnectionPart.Writes : ConnectionPart → List Char → Prop where
  | pair {p : ConnectionPair} {front between after behind : List Char} (before : Blanks front)
      (first : Blanks between) (second : Blanks after) (last : Blanks behind) :
      Writes (.pair p) (front ++ p.key.toList ++ between ++
        '=' :: (after ++ p.value.toList ++ behind))
  | loose {text : String} (outside : ';' ∉ text.toList ∧ '=' ∉ text.toList) :
      Writes (.loose text outside) text.toList

/-- A connection string is made of parts with semicolons between them. -/
def Connects (parts : List ConnectionPart) (text : String) : Prop :=
  ∃ pieces, List.Forall₂ ConnectionPart.Writes parts pieces ∧
    text.toList = [';'].intercalate pieces

/-- A pair has a key, up to case and to blanks around its own. -/
def ConnectionPair.Has (p : ConnectionPair) (key : String) : Prop :=
  sameName (trim p.key) key = true

/-- What a key is found to be: the value of the first pair that has it, if one does. -/
inductive Finds (key : String) (pairs : List ConnectionPair) : Option String → Prop where
  | missing (nowhere : ∀ p ∈ pairs, ¬p.Has key) : Finds key pairs none
  | first {front behind : List ConnectionPair} {p : ConnectionPair}
      (split : pairs = front ++ p :: behind) (own : p.Has key) (others : ∀ q ∈ front, ¬q.Has key) :
      Finds key pairs (some (trim p.value))

section Parts
variable {part : ConnectionPart} {parts : List ConnectionPart} {piece : List Char}
  {pieces : List (List Char)} {text key : String}

theorem ConnectionPart.Writes.outside (writes : part.Writes piece) : ';' ∉ piece := by
  cases writes with
  | @pair p front between after behind before first second last =>
    have blank {cs : List Char} : Blanks cs → ';' ∉ cs := not_mem_of_blanks (by decide)
    simp [blank before, blank first, blank second, blank last, p.keyOutside.1, p.valueOutside]
  | loose outside => exact outside.1

/-- The name and the value in a piece around its first equals sign, without blanks. -/
def meantPair? (piece : List Char) : Option (String × String) :=
  (splitOnce '=' piece).map fun cut =>
    (String.ofList (trimChars cut.1), String.ofList (trimChars cut.2))

/-- However a part is written, a piece is cut where its key ends, and means its key and value. -/
theorem ConnectionPart.Writes.meantPair?_eq (writes : part.Writes piece) :
    meantPair? piece = part.pair?.map fun p => (trim p.key, trim p.value) := by
  cases writes with
  | @pair p front between after behind before first second last =>
    have blank {cs : List Char} : Blanks cs → '=' ∉ cs := not_mem_of_blanks (by decide)
    have outside : '=' ∉ front ++ p.key.toList ++ between := by
      simp [blank before, blank first, p.keyOutside.2]
    rw [meantPair?, splitOnce_front outside, Option.map_some, trimChars_padded before first,
      trimChars_padded second last]
    rfl
  | loose outside =>
    rw [meantPair?, splitOnce_eq_none_iff.mpr outside.2]
    rfl

theorem connectionStringValue_eq (text key : String) :
    connectionStringValue text key =
      (((text.toList.splitOn ';').filterMap meantPair?).find? (sameName ·.1 key)).map (·.2) := by
  have cut : meantPair? = fun piece => (splitOnce '=' piece).map fun cut =>
      (String.ofList (trimChars cut.1), String.ofList (trimChars cut.2)) := rfl
  rw [connectionStringValue, splitAt_eq_splitOn, cut, ← List.map_filterMap, List.find?_map,
    Option.map_map]
  rfl

/-- What the pieces between the semicolons mean are the pairs of the parts. -/
theorem Connects.meantPairs_eq (connects : Connects parts text) :
    (text.toList.splitOn ';').filterMap meantPair? =
      (pairsOf parts).map fun p => (trim p.key, trim p.value) := by
  obtain ⟨pieces, written, made⟩ := connects
  have cut : pieces ≠ [] → text.toList.splitOn ';' = pieces := by
    intro somePiece
    rw [made]
    refine List.splitOn_intercalate ';' ?_ somePiece
    clear made somePiece
    induction written with
    | nil => exact List.forall_mem_nil _
    | cons writes _ ih => exact List.forall_mem_cons.mpr ⟨writes.outside, ih⟩
  have meant : pieces.filterMap meantPair? =
      (pairsOf parts).map fun p => (trim p.key, trim p.value) := by
    rw [pairsOf, List.map_filterMap]
    clear made cut
    induction written with
    | nil => rfl
    | cons writes _ ih => simp only [List.filterMap_cons, writes.meantPair?_eq, ih]
  by_cases nothing : pieces = []
  · rw [← meant, made, nothing]
    rfl
  · rw [cut nothing, meant]

/-- A key is looked up among the pairs. -/
theorem Connects.value_eq (connects : Connects parts text) (key : String) :
    connectionStringValue text key =
      ((pairsOf parts).find? fun p => sameName (trim p.key) key).map fun p => trim p.value := by
  rw [connectionStringValue_eq, connects.meantPairs_eq, List.find?_map, Option.map_map]
  rfl

theorem Connects.value_eq_iff (connects : Connects parts text) {value : Option String} :
    connectionStringValue text key = value ↔ Finds key (pairsOf parts) value := by
  rw [connects.value_eq]
  generalize pairsOf parts = pairs
  constructor
  · rintro rfl
    cases found : pairs.find? fun p => sameName (trim p.key) key with
    | none => exact .missing (List.find?_eq_none.mp found)
    | some p =>
      obtain ⟨own, front, behind, split, others⟩ := List.find?_eq_some_iff_append.mp found
      exact .first split own fun q among => by simpa [ConnectionPair.Has] using others q among
  · intro finds
    cases finds with
    | missing nowhere =>
      rw [List.find?_eq_none.mpr nowhere]
      rfl
    | @first front behind p split own others =>
      have found : pairs.find? (fun p => sameName (trim p.key) key) = some p := by
        refine List.find?_eq_some_iff_append.mpr ⟨own, front, behind, split, fun q among => ?_⟩
        simpa [ConnectionPair.Has] using others q among
      rw [found]
      rfl

/-- Whatever has no semicolon in it is written as a part. -/
theorem exists_writes_part (outside : ';' ∉ piece) : ∃ part : ConnectionPart, part.Writes piece := by
  cases cut : splitOnce '=' piece with
  | none =>
    have plain : ';' ∉ (String.ofList piece).toList ∧ '=' ∉ (String.ofList piece).toList := by
      simpa using ⟨outside, splitOnce_eq_none_iff.mp cut⟩
    refine ⟨.loose (String.ofList piece) plain, ?_⟩
    simpa using ConnectionPart.Writes.loose plain
  | some ends =>
    obtain ⟨rfl, noEquals⟩ := splitOnce_eq_some cut
    simp only [List.mem_append, List.mem_cons, not_or] at outside
    obtain ⟨inKey, -, inValue⟩ := outside
    let p : ConnectionPair :=
      { key := String.ofList ends.1
        value := String.ofList ends.2
        keyOutside := by simpa using ⟨inKey, noEquals⟩
        valueOutside := by simpa using inValue }
    have nothing : Blanks [] := List.forall_mem_nil _
    refine ⟨.pair p, ?_⟩
    simpa [p] using ConnectionPart.Writes.pair (p := p) nothing nothing nothing nothing

/-- Every text is a connection string. -/
theorem exists_connects (text : String) : ∃ parts, Connects parts text := by
  have written {pieces : List (List Char)} (outside : ∀ piece ∈ pieces, ';' ∉ piece) :
      ∃ parts, List.Forall₂ ConnectionPart.Writes parts pieces := by
    induction pieces with
    | nil => exact ⟨[], .nil⟩
    | cons piece pieces ih =>
      obtain ⟨first, others⟩ := List.forall_mem_cons.mp outside
      obtain ⟨part, writes⟩ := exists_writes_part first
      obtain ⟨parts, later⟩ := ih others
      exact ⟨part :: parts, .cons writes later⟩
  obtain ⟨parts, writes⟩ := written fun piece (among : piece ∈ text.toList.splitOn ';') inside =>
    (mem_splitOn among ';' inside).2 rfl
  exact ⟨parts, _, writes, (List.intercalate_splitOn ';').symm⟩

end Parts

namespace Config

/-- The token that a configuration selects: the one that it states, or the one that its connection
string has for the date/time format, or else the default. -/
inductive Selects (c : Config) : String → Prop where
  | stated {token : String} (stated : c.dateTimeFormat = some token) : c.Selects token
  | connected {text token : String} {parts : List ConnectionPart}
      (unstated : c.dateTimeFormat = none) (connection : c.connectionString = some text)
      (connects : Connects parts text)
      (found : Finds "DateTimeFormat" (pairsOf parts) (some token)) : c.Selects token
  | unconnected (unstated : c.dateTimeFormat = none)
      (nowhere : ∀ text parts, c.connectionString = some text → Connects parts text →
        Finds "DateTimeFormat" (pairsOf parts) none) : c.Selects "ISO8601"

section Token
variable {c : Config} {token text : String}

theorem manifestToken_of_stated (stated : c.dateTimeFormat = some token) :
    c.manifestToken = token := by
  simp [manifestToken, stated]

theorem manifestToken_of_connection (unstated : c.dateTimeFormat = none)
    (connection : c.connectionString = some text) :
    c.manifestToken = (connectionStringValue text tokenKey).getD defaultToken := by
  simp [manifestToken, unstated, connection]

theorem manifestToken_of_nothing (unstated : c.dateTimeFormat = none)
    (unconnected : c.connectionString = none) : c.manifestToken = defaultToken := by
  simp [manifestToken, unstated, unconnected]

theorem selects_manifestToken (c : Config) : c.Selects c.manifestToken := by
  cases stated : c.dateTimeFormat with
  | some token =>
    rw [manifestToken_of_stated stated]
    exact .stated stated
  | none =>
    cases connection : c.connectionString with
    | none =>
      rw [manifestToken_of_nothing stated connection]
      refine .unconnected stated fun text parts given => ?_
      rw [connection] at given
      cases given
    | some text =>
      rw [manifestToken_of_connection stated connection]
      cases value : connectionStringValue text tokenKey with
      | none =>
        refine .unconnected stated fun text' parts given connects => ?_
        cases connection.symm.trans given
        exact connects.value_eq_iff.mp value
      | some token =>
        obtain ⟨parts, connects⟩ := exists_connects text
        exact .connected stated connection connects (connects.value_eq_iff.mp value)

theorem Selects.manifestToken_eq (selects : c.Selects token) : c.manifestToken = token := by
  cases selects with
  | stated stated => exact manifestToken_of_stated stated
  | connected unstated connection connects found =>
    have value := connects.value_eq_iff.mpr found
    rw [manifestToken_of_connection unstated connection, tokenKey, value, Option.getD_some]
  | unconnected unstated nowhere =>
    cases connection : c.connectionString with
    | none => exact manifestToken_of_nothing unstated connection
    | some text =>
      obtain ⟨parts, connects⟩ := exists_connects text
      have value := connects.value_eq_iff.mpr (nowhere text parts connection connects)
      rw [manifestToken_of_connection unstated connection, tokenKey, value]
      rfl

end Token

end Config

/-- A key is looked up among the pairs of a connection string, of which the first that has it
decides; what stands between the semicolons without an equals sign makes no difference; there is no
text of which this does not say what is found in it; and the manifest token is selected
accordingly. -/
theorem connectionStringValue_finds :
    (∀ parts text, Connects parts text → ∀ key,
      (∀ value, connectionStringValue text key = value ↔ Finds key (pairsOf parts) value) ∧
        ∀ others other, Connects others other → pairsOf others = pairsOf parts →
          connectionStringValue other key = connectionStringValue text key) ∧
      (∀ text, ∃ parts, Connects parts text) ∧
      ∀ (c : Config) token, c.manifestToken = token ↔ c.Selects token := by
  refine ⟨?_, exists_connects, ?_⟩
  · intro parts text connects key
    refine ⟨fun value => connects.value_eq_iff, ?_⟩
    intro others other written same
    rw [connects.value_eq, written.value_eq, same]
  · intro c token
    exact ⟨fun selected => selected ▸ c.selects_manifestToken, Config.Selects.manifestToken_eq⟩

/-- The first pair with the key decides: its value is without the blanks around it, no matter that
a value in front has equals signs and the key itself, that there is nothing between two semicolons,
and that the key comes again. -/
theorem connectionStringValue_finds_ticks :
    let source : ConnectionPair := ⟨"Data Source", "a=b,DateTimeFormat=x", by decide, by decide⟩
    let ticks : ConnectionPair := ⟨"DATETIMEFORMAT", "Ticks", by decide, by decide⟩
    let again : ConnectionPair := ⟨"DateTimeFormat", "", by decide, by decide⟩
    let text := "Data Source=a=b,DateTimeFormat=x;; DATETIMEFORMAT\t=\u00a0Ticks ;DateTimeFormat="
    Connects [.pair source, .loose "" (by decide), .pair ticks, .pair again] text ∧
      connectionStringValue text "DateTimeFormat" = some "Ticks" ∧
      ∀ other, Connects [.pair source, .pair ticks, .pair again] other →
        connectionStringValue other "DateTimeFormat" = some "Ticks" := by
  intro source ticks again text
  have bare (p : ConnectionPair) :=
    have nothing : Blanks [] := List.forall_mem_nil _
    ConnectionPart.Writes.pair (p := p) nothing nothing nothing nothing
  have single {c : Char} (blank : isBlank c = true) : Blanks [c] :=
    List.forall_mem_singleton.mpr blank
  have padded := ConnectionPart.Writes.pair (p := ticks) (single (c := ' ') (by decide))
    (single (c := '\t') (by decide)) (single (c := '\u00a0') (by decide))
    (single (c := ' ') (by decide))
  have connects : Connects [.pair source, .loose "" (by decide), .pair ticks, .pair again] text :=
    ⟨_, .cons (bare source) (.cons (.loose (by decide))
      (.cons padded (.cons (bare again) .nil))), by decide +kernel⟩
  have own : ticks.Has "DateTimeFormat" := by
    show sameName (trim "DATETIMEFORMAT") "DateTimeFormat" = true
    decide +kernel
  have other : ¬source.Has "DateTimeFormat" := by
    show ¬sameName (trim "Data Source") "DateTimeFormat" = true
    decide +kernel
  have split : [source, ticks, again] = [source] ++ ticks :: [again] := rfl
  have finds : Finds "DateTimeFormat" [source, ticks, again] (some (trim ticks.value)) :=
    .first split own (List.forall_mem_singleton.mpr other)
  have trimmed : trim ticks.value = "Ticks" := by decide +kernel
  rw [trimmed] at finds
  obtain ⟨found, alike⟩ := connectionStringValue_finds.1 _ _ connects "DateTimeFormat"
  have value := (found (some "Ticks")).mpr finds
  exact ⟨connects, value, fun other written => (alike _ _ written rfl).trans value⟩

end StoreBridge

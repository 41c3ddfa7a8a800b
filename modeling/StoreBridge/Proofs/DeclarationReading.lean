import StoreBridge.Proofs.DeclarationMeaning
import StoreBridge.Proofs.TypeMapping

/-! A store type's text is a declared type that means the store type again, but for the facets that
the text leaves out: an unbounded length, a precision without a scale, and all flags. Of these only
the fixed length of blobs is told by nothing else, so that is all that a type loses when its store
type is written out as a declaration and read from there. -/
namespace StoreBridge
open Text

namespace Declaration

/-- The characters of arguments: in parentheses, with a comma between. -/
def argumentChars : List (List Char) → List Char
  | [] => []
  | [a] => '(' :: a ++ [')']
  | a :: b :: _ => '(' :: a ++ ',' :: b ++ [')']

/-- The written numbers of a type's text. -/
def IsArguments (arguments : List (List Char)) : Prop :=
  arguments.length ≤ 2 ∧ ∀ a ∈ arguments, a ≠ [] ∧ ∀ c ∈ a, isDigit c = true

section Written
variable {name : List Char} {arguments : List (List Char)}

/-- A name with its numbers behind it is a written form. -/
theorem written_argumentChars (name : List Char) (isArguments : IsArguments arguments) :
    Written name arguments (name ++ argumentChars arguments) := by
  obtain ⟨few, numbers⟩ := isArguments
  have digits : ∀ a ∈ arguments, IsDigits a := fun a among =>
    ⟨(numbers a among).1, fun c inside => isScriptDigit_of_isDigit c ((numbers a among).2 c inside)⟩
  have gap : Blanks [] := by simp [Blanks]
  cases arguments with
  | nil =>
    rw [argumentChars, List.append_nil]
    exact .bare
  | cons a others =>
    have first : IsFirst a := .inl (digits a (List.mem_cons_self ..))
    cases others with
    | nil =>
      have written : Written name [a] (name ++ [] ++ '(' :: (a ++ [')'])) :=
        .called gap (.one first (.self a))
      simpa [argumentChars] using written
    | cons b more =>
      obtain rfl : more = [] := List.eq_nil_of_length_eq_zero (by simpa using few)
      have written : Written name [a, b] (name ++ [] ++ '(' :: (a ++ ',' :: b ++ [')'])) :=
        .called gap (.two first (.self a) (digits b (by simp)) (.self b))
      simpa [argumentChars] using written

end Written

end Declaration

namespace Facets

/-- The numbers that the text of a store type shows. -/
def shownNumbers (f : Facets) : List (List Char) :=
  match f.maxLength, f.precision, f.scale with
  | some (.bounded n), _, _ => [natural n.toNat]
  | some .unbounded, _, _ => []
  | none, some (.bounded p), some (.bounded s) => [natural p.toNat, natural s.toNat]
  | none, _, _ => []

/-- The facets that the text of a store type shows: a bounded length, or else a precision and a
scale that both are bounded. -/
def shown (f : Facets) : Facets :=
  match f.maxLength, f.precision, f.scale with
  | some (.bounded n), _, _ => { maxLength := some (.bounded n) }
  | some .unbounded, _, _ => {}
  | none, some (.bounded p), some (.bounded s) =>
    { precision := some (.bounded p), scale := some (.bounded s) }
  | none, _, _ => {}

theorem shownNumbers_isArguments (f : Facets) : Declaration.IsArguments f.shownNumbers := by
  have number (n : Nat) : natural n ≠ [] ∧ ∀ c ∈ natural n, isDigit c = true :=
    ⟨natural_ne_nil n, natural_isDigit n⟩
  unfold shownNumbers
  split
  · exact ⟨by simp, by simpa using number _⟩
  · exact ⟨by simp, by simp⟩
  · exact ⟨by simp, by simpa using ⟨number _, number _⟩⟩
  · exact ⟨by simp, by simp⟩

/-- The length is shown if it is bounded. -/
theorem shown_maxLengthValue? (f : Facets) : f.shown.maxLengthValue? = f.maxLengthValue? := by
  unfold shown maxLengthValue?
  split <;> simp_all [Limit.value?]

theorem shown_fixedLength (f : Facets) : f.shown.fixedLength = none := by
  unfold shown
  split <;> rfl

/-- Without a length both numbers of a decimal are shown, or else neither counts. -/
theorem shown_digits? (f : Facets) (noLength : f.maxLength = none) :
    f.shown.digits? = f.digits? := by
  obtain ⟨maxLength, precision, scale, _, _, _, _⟩ := f
  cases noLength
  rcases precision with _ | _ | p
  · rfl
  · rfl
  · rcases scale with _ | _ | s <;> rfl

end Facets

namespace StoreType

/-- The text of a store type is its name with the numbers that are shown. -/
theorem text_eq (s : StoreType) :
    s.text = String.ofList (s.name.toList ++ Declaration.argumentChars s.facets.shownNumbers) := by
  obtain ⟨name, ⟨maxLength, precision, scale, _, _, _, _⟩⟩ := s
  apply String.toList_inj.mp
  rcases maxLength with _ | _ | n
  · rcases precision with _ | _ | p
    · simp [text, Facets.shownNumbers, Declaration.argumentChars]
    · simp [text, Facets.shownNumbers, Declaration.argumentChars]
    · rcases scale with _ | _ | s <;>
        simp [text, Facets.shownNumbers, Declaration.argumentChars, naturalText]
  · simp [text, Facets.shownNumbers, Declaration.argumentChars]
  · simp [text, Facets.shownNumbers, Declaration.argumentChars, naturalText]

theorem writes_natural (n : Nat) : Declaration.Writes (natural n) n :=
  ⟨natural_ne_nil n, natural_isDigit n, decimalValue_natural n⟩

/-- The numbers that are shown state the facets that are shown, unless a length is taken for a
precision. -/
theorem states_shown {name : String} {f : Facets}
    (length : f.maxLengthValue? ≠ none → decimalNames.contains name = false) :
    Declaration.States name f.shownNumbers f.shown := by
  unfold Facets.shownNumbers Facets.shown
  split
  · rename_i n bounded
    have other : decimalNames.contains name = false :=
      length (by simp [Facets.maxLengthValue?, bounded, Limit.value?])
    exact .length (by simpa using other) (writes_natural _)
  · exact .nothing
  · exact .both (writes_natural _) (writes_natural _)
  · exact .nothing

/-- Read as a declared type, the text of a store type is the plain name with the facets that the
text shows. -/
theorem ofDeclared_text {s : StoreType} (wording : Declaration.Wording s.name.toList)
    (length : s.facets.maxLengthValue? ≠ none →
      decimalNames.contains (Declaration.mk s.name.toList []).plainName = false) :
    ofDeclared s.text =
      .ok ⟨(Declaration.mk s.name.toList []).plainName, s.facets.shown⟩ := by
  have plain := Declaration.plainName_wording wording []
  rw [plain] at length ⊢
  have written := Declaration.written_argumentChars s.name.toList s.facets.shownNumbers_isArguments
  have text : s.text.toList = s.name.toList ++ Declaration.argumentChars s.facets.shownNumbers := by
    rw [text_eq, String.toList_ofList]
  rw [← text] at written
  exact ofDeclared_eq_ok_iff.mpr (.mk wording written (.self _) (states_shown length))

end StoreType

namespace StoreKind
variable {k : StoreKind} {f : Facets}

theorem name_wording (k : StoreKind) : Declaration.Wording k.name.toList := by
  have checked : k.name.toList.head?.any Declaration.isNameStart = true ∧
      k.name.toList.all Declaration.isNamePart = true := by
    cases k <;> decide +kernel
  exact .of_parts checked.1 (List.all_eq_true.mp checked.2)

theorem plainName_name (k : StoreKind) :
    (Declaration.mk k.name.toList []).plainName = lower k.name := by
  cases k <;> decide +kernel

/-- Only names of types with lengths have a length in the catalog. -/
private theorem not_decimal (length : (Catalog.entryOf k).maxLength ≠ none) :
    StoreType.decimalNames.contains (lower k.name) = false := by
  cases k <;> first | exact absurd rfl length | decide +kernel

/-- What a store kind looks at is shown, but for the fixed length. -/
theorem alike_shown (admitted : (Catalog.entryOf k).Admits f) :
    k.Alike f.shown { f with fixedLength := none } where
  length _ := f.shown_maxLengthValue?
  fixedLength _ := by rw [f.shown_fixedLength]
  digits decimal := by
    have noLength : f.maxLength = none := by
      cases k with
      | decimal | extDecimal => exact admitted.maxLength.eq_none
      | _ => cases decimal
    exact f.shown_digits? noLength

/-- Read as a declared type, the text of a store type that the catalog admits means what the store
type does without a fixed length. -/
theorem conceptualOfDeclared_text (admitted : (Catalog.entryOf k).Admits f) :
    (∃ d, StoreType.ofDeclared (StoreType.mk k.name f).text = .ok d) ∧
      StoreType.conceptualOfDeclared (StoreType.mk k.name f).text =
        k.conceptualType { f with fixedLength := none } := by
  have length (someLength : f.maxLengthValue? ≠ none) : (Catalog.entryOf k).maxLength ≠ none := by
    intro undeclared
    have admits := admitted.maxLength
    rw [undeclared] at admits
    simp [Facets.maxLengthValue?, admits.eq_none] at someLength
  have declared := StoreType.ofDeclared_text (s := ⟨k.name, f⟩) k.name_wording fun someLength => by
    rw [plainName_name]
    exact not_decimal (length someLength)
  rw [plainName_name] at declared
  refine ⟨⟨_, declared⟩, ?_⟩
  simp only [StoreType.conceptualOfDeclared, declared, bind, Except.bind]
  rw [StoreType.conceptualType_of_isNamed (StoreType.isNamed_lower_name k f.shown),
    conceptualType_congr (alike_shown admitted)]

end StoreKind

/-- Texts and blobs may or may not be of a fixed length. -/
theorem Applicable.withFixedLength {kind : Kind} {f : Facets} (h : Applicable kind f)
    (bearing : kind.isLengthBearing = true) (fixedLength : Option Bool) :
    Applicable kind { f with fixedLength := fixedLength } :=
  ⟨h.1, fun _ => bearing, h.3, h.4, h.5, h.6, h.7, h.8, h.9⟩

namespace ConceptualType

/-- A blob that does not state a fixed length has none. -/
private theorem returned_blob {f : Facets} {u : ConceptualType}
    (returned : StoreKind.blob.conceptualType f = .ok u) :
    ∃ v, StoreKind.blob.conceptualType { f with fixedLength := none } = .ok v ∧
      v.kind = u.kind ∧ v.facets = { u.facets with fixedLength := some false } := by
  obtain ⟨kind, facets⟩ := (make_eq_ok_iff _ _ _).mp returned
  have applicable := u.applicable.withFixedLength (by rw [kind]; rfl) (some false)
  refine ⟨⟨u.kind, _, applicable⟩, (make_eq_ok_iff _ _ _).mpr ⟨kind, ?_⟩, rfl, rfl⟩
  show { u.facets with fixedLength := some false } = _
  rw [facets]
  rfl

/-- Written out as a declaration, the store type of a conceptual type is read as a store type again,
and that one stands for the same conceptual type, the normal form. Only blobs have no fixed length
any more. -/
theorem storeType_text_returns {t : ConceptualType} {s : StoreType}
    (stored : t.storeType = .ok s) :
    (∃ d, StoreType.ofDeclared s.text = .ok d) ∧ s.conceptualType = .ok t.normal ∧
      ∃ v, StoreType.conceptualOfDeclared s.text = .ok v ∧ v.kind = t.kind ∧
        v.facets = if t.kind = .binary then { t.normal.facets with fixedLength := some false }
          else t.normal.facets := by
  cases storable : t.kind.isStorable with
  | false =>
    cases kind : t.kind <;> simp [kind, Kind.isStorable] at storable <;>
      simp [storeType, storage, kind, bind, Except.bind] at stored
  | true =>
    obtain ⟨k, f, held⟩ := exists_holds t storable
    obtain rfl : s = ⟨k.name, f⟩ := Except.ok.inj (stored.symm.trans held.storeType_eq)
    obtain ⟨declared, returned⟩ := StoreKind.conceptualOfDeclared_text held.admitted
    refine ⟨declared, held.conceptualType_eq, ?_⟩
    rw [returned, ← held.kind]
    have back := held.returned
    cases k with
    | blob =>
      obtain ⟨v, read, kind, facets⟩ := returned_blob back
      exact ⟨v, read, kind.trans held.kind.symm, facets⟩
    | _ => exact ⟨t.normal, back, held.kind.symm, rfl⟩

/-- A blob of sixteen octets comes back from its declaration, but not as one of a fixed length. -/
theorem storeType_text_returns_blob :
    let t : ConceptualType := ⟨.binary,
      { maxLength := some (.bounded 16), fixedLength := some true },
      (Facets.fault?_eq_none_iff _ _).mp rfl⟩
    let s : StoreType :=
      ⟨"blob", { maxLength := some (.bounded 16), fixedLength := some true }⟩
    t.storeType = .ok s ∧ s.text = "blob(16)" ∧
      ∃ v, StoreType.conceptualOfDeclared s.text = .ok v ∧ v.kind = .binary ∧
        v.facets = { maxLength := some (.bounded 16), fixedLength := some false } := by
  intro t s
  have stored : t.storeType = .ok s := by decide +kernel
  obtain ⟨-, -, v, read, kind, facets⟩ := storeType_text_returns stored
  exact ⟨stored, by decide +kernel, v, read, kind, facets⟩

end ConceptualType
end StoreBridge

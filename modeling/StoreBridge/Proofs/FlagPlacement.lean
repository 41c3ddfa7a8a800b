import Mathlib
import StoreBridge.CommandLine
import StoreBridge.Proofs.Deciding

/-! The flag for the configuration among the arguments. Whether the word is a flag or the path of
one depends on all that stands in front of it, since of a run of such words every second one is a
path; so it is said place by place where a path is awaited. Arguments that leave none awaited can be
scanned apart from what follows them, and what follows apart from them. Hence a flag may be put in
anywhere but between another and its path: it hides no other argument, and its path counts unless a
flag behind it names another. -/
namespace StoreBridge.CommandLine

/-- A path is awaited at a place: the argument in front of it is the word, and no path itself. -/
def Awaits (args : List String) : Nat → Prop
  | 0 => False
  | n + 1 => args[n]? = some configFlag ∧ ¬Awaits args n

instance instDecidableAwaits (args : List String) : (n : Nat) → Decidable (Awaits args n)
  | 0 => isFalse id
  | n + 1 =>
    have := instDecidableAwaits args n
    inferInstanceAs (Decidable (args[n]? = some configFlag ∧ ¬Awaits args n))

/-- A flag with its path, which is an argument of its own or stands behind an equals sign. -/
inductive Flag (path : String) : List String → Prop where
  | apart : Flag path [configFlag, path]
  | within : Flag path [configFlag ++ "=" ++ path]

/-- An argument in neither form of the flag. -/
def Plain (arg : String) : Prop :=
  arg ≠ configFlag ∧ ∀ path, arg ≠ configFlag ++ "=" ++ path

theorem pathIn?_eq_some_iff {arg path : String} :
    pathIn? arg = some path ↔ arg = configFlag ++ "=" ++ path := by
  rw [← @String.toList_inj arg, String.toList_append, pathIn?]
  split
  · rename_i front
    obtain ⟨behind, cut⟩ := List.isPrefixOf_iff_prefix.mp front
    rw [← cut, List.drop_left, Option.some.injEq, List.append_cancel_left_eq, ← String.toList_inj,
      String.toList_ofList]
  · rename_i other
    constructor
    · intro found
      cases found
    · intro same
      rw [same] at other
      exact absurd (List.isPrefixOf_iff_prefix.mpr (List.prefix_append ..)) other

theorem plain_iff {arg : String} : Plain arg ↔ arg ≠ configFlag ∧ pathIn? arg = none := by
  rw [Plain, Option.eq_none_iff_forall_ne_some]
  simp only [ne_eq, pathIn?_eq_some_iff]

instance (arg : String) : Decidable (Plain arg) :=
  decidable_of_iff _ plain_iff.symm

/-- The arguments that are neither flags nor their paths, in order. -/
def plainArguments (args : List String) : List String :=
  (List.range args.length).filterMap fun i =>
    if Awaits args i then none else args[i]?.filter (Plain ·)

/-- The flag at a place names a path: the next argument, or what stands behind its equals sign. -/
def Names (args : List String) (i : Nat) (path : String) : Prop :=
  ¬Awaits args i ∧ (args[i]? = some configFlag ∧ args[i + 1]? = some path ∨
    args[i]? = some (configFlag ++ "=" ++ path))

/-- The path that the last flag names, if there is a flag. -/
inductive LastNamed (args : List String) : Option String → Prop where
  | nowhere (unnamed : ∀ i path, ¬Names args i path) : LastNamed args none
  | last {i : Nat} {path : String} (names : Names args i path)
      (behind : ∀ j other, i < j → ¬Names args j other) : LastNamed args (some path)

section Places
variable {front back flag args : List String} {arg path other : String} {i : Nat}

theorem getElem?_back (front back : List String) (i : Nat) :
    (front ++ back)[front.length + i]? = back[i]? := by
  rw [List.getElem?_append_right (Nat.le_add_right ..), Nat.add_sub_cancel_left]

theorem awaits_front (within : i ≤ front.length) :
    Awaits (front ++ back) i ↔ Awaits front i := by
  induction i with
  | zero => rfl
  | succ i ih => rw [Awaits, Awaits, List.getElem?_append_left within, ih (Nat.le_of_succ_le within)]

/-- Behind arguments that leave no path awaited, places count as if nothing stood in front. -/
theorem awaits_back (free : ¬Awaits front front.length) :
    Awaits (front ++ back) (front.length + i) ↔ Awaits back i := by
  induction i with
  | zero => simpa [awaits_front, Awaits] using free
  | succ i ih =>
    rw [← Nat.add_assoc, Awaits, Awaits, ih, getElem?_back]

/-- A flag in front of a place where no path is awaited has its path in front of it, too. -/
theorem names_front (free : ¬Awaits front front.length) (within : i < front.length) :
    Names (front ++ back) i path ↔ Names front i path := by
  have next (unawaited : ¬Awaits front i) (word : front[i]? = some configFlag) :
      (front ++ back)[i + 1]? = front[i + 1]? := by
    refine List.getElem?_append_left (Nat.lt_of_le_of_ne within ?_)
    intro last
    rw [← last] at free
    exact free ⟨word, unawaited⟩
  unfold Names
  rw [awaits_front within.le, List.getElem?_append_left within]
  refine and_congr_right fun unawaited => or_congr_left (and_congr_right fun word => ?_)
  rw [next unawaited word]

theorem names_back (free : ¬Awaits front front.length) :
    Names (front ++ back) (front.length + i) path ↔ Names back i path := by
  rw [Names, Names, awaits_back free, Nat.add_assoc, getElem?_back, getElem?_back]

theorem plainArguments_append (free : ¬Awaits front front.length) :
    plainArguments (front ++ back) = plainArguments front ++ plainArguments back := by
  unfold plainArguments
  rw [List.length_append, List.range_add, List.filterMap_append, List.filterMap_map]
  congr 1
  · apply List.filterMap_congr
    intro i among
    have within := List.mem_range.mp among
    simp only [awaits_front within.le, List.getElem?_append_left within]
  · apply List.filterMap_congr
    intro i _
    simp only [Function.comp_apply, awaits_back free, getElem?_back]

theorem names_append (free : ¬Awaits front front.length) :
    Names (front ++ back) i path ↔ (i < front.length ∧ Names front i path) ∨
      ∃ j, i = front.length + j ∧ Names back j path := by
  by_cases within : i < front.length
  · rw [names_front free within]
    constructor
    · intro names
      exact .inl ⟨within, names⟩
    · rintro (⟨-, names⟩ | ⟨j, rfl, -⟩)
      · exact names
      · omega
  · obtain ⟨j, rfl⟩ := Nat.exists_eq_add_of_le (Nat.le_of_not_lt within)
    rw [names_back free]
    simp

/-- The last flag is the last one behind, or else the last one in front. -/
theorem LastNamed.append {first later : Option String} (free : ¬Awaits front front.length)
    (firstNamed : LastNamed front first) (laterNamed : LastNamed back later) :
    LastNamed (front ++ back) (later.or first) := by
  cases laterNamed with
  | @last j path names behind =>
    refine .last ((names_back free).mpr names) fun k other after again => ?_
    rcases (names_append free).mp again with ⟨within, -⟩ | ⟨l, rfl, inside⟩
    · omega
    · exact behind l other (by omega) inside
  | nowhere unnamed =>
    cases firstNamed with
    | nowhere unnamedFront =>
      refine .nowhere fun k other again => ?_
      rcases (names_append free).mp again with ⟨-, inside⟩ | ⟨l, -, inside⟩
      · exact unnamedFront k other inside
      · exact unnamed l other inside
    | @last j path names behind =>
      refine .last ((names_append free).mpr (.inl ⟨?_, names⟩)) fun k other after again => ?_
      · rcases names with ⟨-, ⟨word, -⟩ | word⟩ <;> exact (List.getElem?_eq_some_iff.mp word).1
      · rcases (names_append free).mp again with ⟨-, inside⟩ | ⟨l, -, inside⟩
        · exact behind k other after inside
        · exact unnamed l other inside

end Places

section Scan
variable {front back flag args rest : List String} {arg path : String}

theorem carrying_ne_word (path : String) : configFlag ++ "=" ++ path ≠ configFlag := by
  intro same
  have lengths := congrArg String.length same
  have equals : "=".length = 1 := rfl
  simp only [String.length_append, equals] at lengths
  omega

theorem Flag.free (names : Flag path flag) : ¬Awaits flag flag.length := by
  cases names with
  | apart => simp [Awaits]
  | within => simp [Awaits, carrying_ne_word]

theorem Flag.lastNamed (names : Flag path flag) : LastNamed flag (some path) := by
  cases names with
  | apart =>
    refine .last (i := 0) ⟨id, .inl ⟨rfl, rfl⟩⟩ fun j other after names => ?_
    match j with
    | 1 => exact names.1 ⟨rfl, id⟩
    | j + 2 => simp [Names] at names
  | within =>
    refine .last (i := 0) ⟨id, .inr rfl⟩ fun j other after names => ?_
    match j with
    | j + 1 => simp [Names] at names

theorem Flag.plainArguments_eq (names : Flag path flag) : plainArguments flag = [] := by
  cases names with
  | apart => simp [plainArguments, List.range_succ, Awaits, Plain]
  | within => simp [plainArguments, List.range_succ, Awaits, Plain]

theorem Plain.free (plain : Plain arg) : ¬Awaits [arg] [arg].length := by
  simp [Awaits, plain.1]

theorem Plain.lastNamed (plain : Plain arg) : LastNamed [arg] none := by
  refine .nowhere fun j path names => ?_
  match j with
  | 0 => simp [Names, plain.1, plain.2] at names
  | j + 1 => simp [Names] at names

theorem Plain.plainArguments_eq (plain : Plain arg) : plainArguments [arg] = [arg] := by
  have free : ¬Awaits [arg] 0 := id
  have kept : (some arg).filter (Plain ·) = some arg := Option.filter_some_pos (by simpa using plain)
  show [0].filterMap _ = [arg]
  rw [List.filterMap_cons_some (b := arg) (by rw [if_neg free]; exact kept), List.filterMap_nil]

theorem splitConfig_flag (names : Flag path flag) (rest : List String) :
    splitConfig (flag ++ rest) =
      (splitConfig rest).map fun found => (found.1.or (some path), found.2) := by
  cases names with
  | apart =>
    show splitConfig (configFlag :: path :: rest) = _
    rw [splitConfig, if_pos rfl]
    rcases splitConfig rest with failure | ⟨_ | later, others⟩ <;> rfl
  | within =>
    have carried := pathIn?_eq_some_iff.mpr (rfl : configFlag ++ "=" ++ path = _)
    show splitConfig (_ :: rest) = _
    rw [splitConfig.eq_def]
    simp only [if_neg (carrying_ne_word path), carried]
    rcases splitConfig rest with failure | ⟨_ | later, others⟩ <;> rfl

theorem splitConfig_plain (plain : Plain arg) (rest : List String) :
    splitConfig (arg :: rest) = (splitConfig rest).map fun found => (found.1, arg :: found.2) := by
  obtain ⟨noWord, carriesNone⟩ := plain_iff.mp plain
  rw [splitConfig.eq_def]
  simp only [if_neg noWord, carriesNone]
  cases splitConfig rest <;> rfl

/-- Arguments are none at all, or the word alone, or they begin with a flag or a plain argument. -/
@[elab_as_elim]
theorem arguments_induction {motive : List String → Prop} (nothing : motive [])
    (alone : motive [configFlag])
    (flag : ∀ path flag rest, Flag path flag → motive rest → motive (flag ++ rest))
    (plain : ∀ arg rest, Plain arg → motive rest → motive (arg :: rest)) (args : List String) :
    motive args := by
  induction args using splitConfig.induct with
  | case1 => exact nothing
  | case2 => exact alone
  | case3 path rest ih => exact flag path [configFlag, path] rest .apart ih
  | case4 arg rest noWord ih =>
    cases carried : pathIn? arg with
    | none => exact plain arg rest (plain_iff.mpr ⟨noWord, carried⟩) ih
    | some path =>
      rw [pathIn?_eq_some_iff.mp carried]
      exact flag path [configFlag ++ "=" ++ path] rest .within ih

/-- What the scan of arguments comes to. -/
inductive Scanned (args : List String) : Except Failure (Option String × List String) → Prop where
  | missing (awaits : Awaits args args.length) : Scanned args (.error .configPathMissing)
  | done {path : Option String} (free : ¬Awaits args args.length) (last : LastNamed args path) :
      Scanned args (.ok (path, plainArguments args))

/-- Behind arguments that leave no path awaited the scan goes on as if it began there. -/
theorem Scanned.append {first : Option String}
    {result : Except Failure (Option String × List String)} (free : ¬Awaits front front.length)
    (named : LastNamed front first) (scanned : Scanned back result) :
    Scanned (front ++ back)
      (result.map fun found => (found.1.or first, plainArguments front ++ found.2)) := by
  have length : (front ++ back).length = front.length + back.length := List.length_append
  cases scanned with
  | missing awaits =>
    refine .missing ?_
    rwa [length, awaits_back free]
  | done unawaited last =>
    show Scanned _ (.ok (_, plainArguments front ++ plainArguments back))
    rw [← plainArguments_append free]
    refine .done ?_ (named.append free last)
    rwa [length, awaits_back free]

theorem exists_scanned (args : List String) : Scanned args (splitConfig args) := by
  induction args using arguments_induction with
  | nothing => exact .done id (.nowhere fun i path names => by simp [Names] at names)
  | alone => exact .missing ⟨rfl, id⟩
  | flag path flag rest names ih =>
    rw [splitConfig_flag names]
    have scanned := ih.append names.free names.lastNamed
    rwa [names.plainArguments_eq] at scanned
  | plain arg rest plain ih =>
    rw [splitConfig_plain plain]
    have scanned := ih.append plain.free plain.lastNamed
    simp only [plain.plainArguments_eq, Option.or_none] at scanned
    exact scanned

/-- Arguments that are scanned to their end are scanned alike whatever follows them. -/
theorem splitConfig_append {first : Option String} {others : List String}
    (ended : splitConfig front = .ok (first, others)) (back : List String) :
    splitConfig (front ++ back) =
      (splitConfig back).map fun found => (found.1.or first, others ++ found.2) := by
  induction front using arguments_induction generalizing first others with
  | nothing =>
    cases ended
    show splitConfig back = _
    rcases splitConfig back with failure | ⟨_ | later, others⟩ <;> rfl
  | alone => cases ended
  | flag path flag rest names ih =>
    rw [splitConfig_flag names] at ended
    obtain ⟨found, inside, same⟩ := map_eq_ok ended
    cases same
    rw [List.append_assoc, splitConfig_flag names, ih inside]
    cases splitConfig back <;> simp [Except.map]
  | plain arg rest plain ih =>
    rw [splitConfig_plain plain] at ended
    obtain ⟨found, inside, same⟩ := map_eq_ok ended
    cases same
    rw [List.cons_append, splitConfig_plain plain, ih inside]
    cases splitConfig back <;> simp [Except.map]

/-- The scan fails exactly where a path is still awaited at the end. -/
theorem splitConfig_of_awaits (awaits : Awaits args args.length) :
    splitConfig args = .error .configPathMissing := by
  have scanned := exists_scanned args
  generalize splitConfig args = result at scanned ⊢
  cases scanned with
  | missing => rfl
  | done free => exact absurd awaits free

theorem splitConfig_of_free (free : ¬Awaits args args.length) :
    ∃ path, splitConfig args = .ok (path, plainArguments args) ∧ LastNamed args path := by
  have scanned := exists_scanned args
  generalize splitConfig args = result at scanned ⊢
  cases scanned with
  | missing awaits => exact absurd awaits free
  | done _ last => exact ⟨_, rfl, last⟩

theorem awaits_length_iff :
    Awaits args args.length ↔ ∃ front, args = front ++ [configFlag] ∧ ¬Awaits args front.length := by
  constructor
  · intro awaits
    rcases List.eq_nil_or_concat args with rfl | ⟨front, last, rfl⟩
    · exact awaits.elim
    · rw [List.concat_eq_append] at awaits ⊢
      rw [List.length_append, List.length_singleton, Awaits] at awaits
      have same : last = configFlag := by simpa using awaits.1
      exact ⟨front, by rw [same], awaits.2⟩
  · rintro ⟨front, rfl, free⟩
    rw [List.length_append, List.length_singleton, Awaits]
    exact ⟨by simp, free⟩

end Scan

/-- What a scan that ends well says of the arguments. -/
structure Splits (args : List String) (path : Option String) (others : List String) : Prop where
  /-- All arguments are left but the flags and their paths. -/
  left : others = plainArguments args
  /-- The path is the one that the last flag names. -/
  named : LastNamed args path
  /-- A flag may be put in wherever no path is awaited. It leaves the others as they are, and its
  path counts unless a flag behind it names one. -/
  anywhere : ∀ front back flag added, args = front ++ back → ¬Awaits args front.length →
    Flag added flag → ∃ after, splitConfig (front ++ flag ++ back) = .ok (after, others) ∧
      ((∃ i other, front.length ≤ i ∧ Names args i other) → after = path) ∧
      ((∀ i other, front.length ≤ i → ¬Names args i other) → after = some added)

section Insertion
variable {front back flag args : List String} {added : String} {path : Option String}

/-- Where flags behind a place name a path, the last of them names the one that counts. -/
theorem LastNamed.isSome_iff (last : LastNamed back path) (free : ¬Awaits front front.length) :
    path.isSome = true ↔ ∃ i other, front.length ≤ i ∧ Names (front ++ back) i other := by
  cases last with
  | nowhere unnamed =>
    simp only [Option.isSome_none, Bool.false_eq_true, false_iff]
    rintro ⟨i, other, behind, names⟩
    obtain ⟨j, rfl⟩ := Nat.exists_eq_add_of_le behind
    exact unnamed j other ((names_back free).mp names)
  | last names =>
    simp only [Option.isSome_some, true_iff]
    exact ⟨_, _, Nat.le_add_right .., (names_back free).mpr names⟩

theorem splits_of_ok {others : List String} (ended : splitConfig args = .ok (path, others)) :
    Splits args path others := by
  have free : ¬Awaits args args.length := by
    intro awaits
    rw [splitConfig_of_awaits awaits] at ended
    cases ended
  obtain ⟨_, found, named⟩ := splitConfig_of_free free
  cases ended.symm.trans found
  refine ⟨rfl, named, ?_⟩
  rintro front back flag added rfl unawaited flagged
  rw [awaits_front le_rfl] at unawaited
  rw [List.length_append, awaits_back unawaited] at free
  obtain ⟨first, ahead, -⟩ := splitConfig_of_free unawaited
  obtain ⟨later, behind, last⟩ := splitConfig_of_free free
  have whole := splitConfig_append ahead back
  rw [found, behind] at whole
  obtain ⟨rfl, -⟩ := Prod.mk.inj (Except.ok.inj whole)
  refine ⟨(later.or (some added)).or first, ?_, ?_, ?_⟩
  · rw [List.append_assoc, splitConfig_append ahead, splitConfig_flag flagged, behind,
      plainArguments_append unawaited]
    rfl
  · intro someFlag
    obtain ⟨path, rfl⟩ := Option.isSome_iff_exists.mp ((last.isSome_iff unawaited).mpr someFlag)
    rfl
  · intro noFlag
    have nothing : ¬later.isSome = true := by
      rw [last.isSome_iff unawaited]
      rintro ⟨i, other, behind, names⟩
      exact noFlag i other behind names
    rw [Option.not_isSome_iff_eq_none.mp nothing]
    rfl

end Insertion

/-- The flag for the configuration may stand anywhere. A scan fails, for an invalid argument, exactly
when the arguments end with the word and it is no path there; and otherwise it leaves the arguments
that are neither flags nor their paths, takes the path of the last flag, and does so wherever else a
flag is put in. -/
theorem splitConfig_anywhere (args : List String) :
    ((∃ failure, splitConfig args = .error failure) ↔
      ∃ front, args = front ++ [configFlag] ∧ ¬Awaits args front.length) ∧
      (∀ failure, splitConfig args = .error failure → failure.category = .invalidArgument) ∧
      ∀ path others, splitConfig args = .ok (path, others) → Splits args path others := by
  refine ⟨?_, ?_, fun path others => splits_of_ok⟩
  · rw [← awaits_length_iff]
    constructor
    · rintro ⟨failure, failed⟩
      by_contra free
      obtain ⟨path, ended, -⟩ := splitConfig_of_free free
      rw [ended] at failed
      cases failed
    · intro awaits
      exact ⟨_, splitConfig_of_awaits awaits⟩
  · intro failure failed
    have scanned := exists_scanned args
    rw [failed] at scanned
    cases scanned
    rfl

/-- Of three words in a row the second is a path, so that the third waits for its own; before it a
flag can be put in, which the one behind overrides, and at the end one that counts. -/
theorem splitConfig_anywhere_run :
    let args := ["--config", "--config", "columns", "--config=b", "x"]
    splitConfig args = .ok (some "b", ["columns", "x"]) ∧
      (∃ after, splitConfig ["--config", "--config", "--config", "c", "columns", "--config=b", "x"] =
        .ok (after, ["columns", "x"]) ∧ after = some "b") ∧
      (∃ after, splitConfig ["--config", "--config", "columns", "--config=b", "x", "--config=c"] =
        .ok (after, ["columns", "x"]) ∧ after = some "c") ∧
      ∃ failure, splitConfig ["columns", "--config", "--config", "--config"] = .error failure ∧
        failure.category = .invalidArgument := by
  intro args
  have ended : splitConfig args = .ok (some "b", ["columns", "x"]) := by decide +kernel
  have splits := (splitConfig_anywhere args).2.2 _ _ ended
  obtain ⟨after, inFront, kept, -⟩ := splits.anywhere ["--config", "--config"]
    ["columns", "--config=b", "x"] _ "c" rfl (by decide +kernel) .apart
  obtain ⟨atEnd, behind, -, counts⟩ := splits.anywhere args [] _ "c" rfl (by decide +kernel) .within
  obtain ⟨ends, invalid, -⟩ := splitConfig_anywhere ["columns", "--config", "--config", "--config"]
  obtain ⟨failure, failed⟩ := ends.mpr ⟨["columns", "--config", "--config"], rfl, by decide +kernel⟩
  refine ⟨ended, ⟨after, inFront, kept ⟨3, "b", by decide, by decide +kernel, .inr rfl⟩⟩,
    ⟨atEnd, behind, counts fun i other past names => ?_⟩, failure, failed, invalid failure failed⟩
  have missing : args[i]? = none := List.getElem?_eq_none past
  simp [Names, missing] at names

end StoreBridge.CommandLine

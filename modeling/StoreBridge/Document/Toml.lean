import StoreBridge.Document.Toml.Entry

/-! Reading documents in TOML notation. A text is a run of lines, each a key with a value or the
header of a section. Sections are put together by their paths: those that begin with one name form
what stands under that name, a list of objects if the first of them is headed in double brackets and
an object otherwise. A path is headed at most once, a list's one for each of its items. -/
namespace StoreBridge.Document.Toml

/-- A section: the path of its header, whether that adds an item to a list, and what stands below.
-/
structure Section where
  path : List String
  isItem : Bool
  members : List (String × Document)

/-- A line that says something. -/
inductive Line where
  | header (path : List String) (isItem : Bool)
  | entry (path : List String) (d : Document)

/-- Both brackets of a header's end, or the one. -/
def headerEnd? (isItem : Bool) (cs : List Char) : Option (List Char) := do
  let rest ← mark? ']' cs
  if isItem then mark? ']' rest else some rest

/-- A header, behind its first bracket. -/
def header? : Reader Line := fun cs => do
  let (isItem, rest) := match mark? '[' cs with
    | some rest => (true, rest)
    | none => (false, cs)
  let (path, rest) ← key? (skip rest)
  return (.header path isItem, ← headerEnd? isItem rest)

/-- A line that says something, up to its end. -/
def line? : Reader Line := fun cs => do
  let (line, rest) ← match mark? '[' cs with
    | some rest => header? rest
    | none => (keyValue? (2 * cs.length + 2) cs).map fun ((path, d), rest) => (.entry path d, rest)
  return (line, ← restOfLine? rest)

/-- The lines of a text, in at most so many steps. -/
def lines? : (steps : Nat) → List Char → Option (List Line)
  | 0, _ => none
  | steps + 1, cs =>
    match skipSpace cs with
    | [] => some []
    | cs => do
      let (line, rest) ← line? cs
      return line :: (← lines? steps rest)

/-- The sections of lines, from an open section on. -/
def sections? (path : List String) (isItem : Bool) (members : List (String × Node)) :
    List Line → Option (List Section)
  | [] => some [⟨path, isItem, documents members⟩]
  | .header next nextIsItem :: lines => do
    return ⟨path, isItem, documents members⟩ :: (← sections? next nextIsItem [] lines)
  | .entry key d :: lines => do
    sections? path isItem (← graft d key members) lines

/-- The sections whose paths begin with a name, without that name, and the others. -/
def under (name : String) : List Section → List Section × List Section
  | [] => ([], [])
  | s :: rest =>
    let (inside, outside) := under name rest
    match s.path with
    | head :: tail =>
      if head = name then ({ s with path := tail } :: inside, outside)
      else (inside, s :: outside)
    | [] => (inside, s :: outside)

/-- The section adds an item to the list it stands in. -/
def Section.opensItem (s : Section) : Bool :=
  s.isItem && s.path.isEmpty

/-- The sections of each item of a list. -/
def itemSections : List Section → List (List Section)
  | [] => []
  | s :: rest =>
    match itemSections rest with
    | [] => [[s]]
    | part :: parts =>
      if (part.head?).any (·.opensItem) then [s] :: part :: parts else (s :: part) :: parts

/-- The sections of an item, the first of which is that of an object. -/
def asObject : List Section → List Section
  | [] => []
  | s :: rest => { s with isItem := false } :: rest

/-- The members that sections stand for, in at most so many steps, if the sections of every object
below are such as are admitted. -/
def assemble (admits : List Section → Bool) :
    (steps : Nat) → List Section → Option (List (String × Document))
  | 0, _ => none
  | _ + 1, [] => some []
  | steps + 1, s :: rest =>
    match s.path with
    | [] =>
      if s.isItem || rest.any (·.path.isEmpty) then none
      else do return s.members ++ (← assemble admits steps rest)
    | name :: _ => do
      let (inside, outside) := under name (s :: rest)
      let below (sections : List Section) : Option Document :=
        if admits sections then (assemble admits steps sections).map .assembled else none
      let d ←
        if (inside.head?).any (·.opensItem) then do
          let items ← (itemSections inside).mapM fun part => below (asObject part)
          pure (Document.list items)
        else below inside
      return (name, d) :: (← assemble admits steps outside)

/-- The text with every line ending in one character. -/
def foldLineEnds : List Char → List Char
  | '\r' :: '\n' :: rest => '\n' :: foldLineEnds rest
  | c :: rest => c :: foldLineEnds rest
  | [] => []

/-- The text without a mark of the order of octets in front. -/
def withoutMark : List Char → List Char
  | '\ufeff' :: rest => rest
  | cs => cs

/-- The sections that a text consists of. -/
def sectionsOf? (s : String) : Option (List Section) := do
  let cs := foldLineEnds (withoutMark s.toList)
  sections? [] false [] (← lines? (cs.length + 1) cs)

/-- The object that sections stand for. -/
def objectOf? (admits : List Section → Bool) (sections : List Section) : Option Document := do
  let steps := sections.foldl (fun n s => n + s.path.length + 1) 1
  return .object (← assemble admits steps sections)

/-- The document that a text is, always an object. -/
def read? (s : String) : Option Document := do
  objectOf? (fun _ => true) (← sectionsOf? s)

/-- The name of the member that makes a date/time of an object: it has to be the first. -/
def momentName : String := "$__toml_private_datetime"

/-- The members begin with the one that makes a date/time of the object. -/
def beginWithMoment (members : List (String × Document)) : Bool :=
  members.head?.any (·.1 == momentName)

/-- The first of the sections makes a date/time of the object. -/
def standForMoment (sections : List Section) : Bool :=
  sections.head?.any fun s => s.path.isEmpty && beginWithMoment s.members

/-- An object that is a date/time has no sections in it. -/
def admitsMoment (sections : List Section) : Bool :=
  !standForMoment sections || decide (sections.length ≤ 1)

mutual

/-- Every date/time is one, and every object either is one or has each of its names once. What
follows the first member of a date/time does not matter. -/
def isWellFormed : Document → Bool
  | .moment s => isMoment s
  | .list ds => areWellFormed ds
  | .object members => isObject members
  | .assembled members => isObject members
  | _ => true

/-- Every document of a list is well formed. -/
def areWellFormed : List Document → Bool
  | [] => true
  | d :: rest => isWellFormed d && areWellFormed rest

/-- The members are those of a well-formed object. -/
def isObject : List (String × Document) → Bool
  | [] => true
  | (name, d) :: rest =>
    if name = momentName then d.text?.any isMoment
    else isWellFormed d && !(rest.any (·.1 == name)) && haveDistinctNames rest

/-- The members are well formed, and no two have one name. -/
def haveDistinctNames : List (String × Document) → Bool
  | [] => true
  | (name, d) :: rest =>
    isWellFormed d && !(rest.any (·.1 == name)) && haveDistinctNames rest

end

/-- The text is a well-formed document. If it begins like a date/time, its sections do not matter.
-/
def isDocument (s : String) : Bool :=
  (sectionsOf? s).any fun sections =>
    let sections := if standForMoment sections then sections.take 1 else sections
    (objectOf? admitsMoment sections).any isWellFormed

end StoreBridge.Document.Toml

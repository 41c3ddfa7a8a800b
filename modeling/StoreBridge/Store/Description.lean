import StoreBridge.Store.ForeignKey

/-! The tables in which a store describes itself. One lists the tables and keys with their
definitions; the others are reports, some of which are asked about a table or a key by its name.
None of them can be changed. -/
namespace StoreBridge.Store
open Sql Text

/-- The names of the table that lists what the store holds. -/
def schemaNames : List String :=
  ["sqlite_schema", "sqlite_master"]

/-- The names of the table that lists what is held for a time only, which is nothing. -/
def temporarySchemaNames : List String :=
  ["sqlite_temp_schema", "sqlite_temp_master"]

/-- The columns of the lists of what the store holds. -/
def schemaColumns : List Column :=
  [{ name := "type", type := "TEXT", affinity := .text, width := 5 },
    { name := "name", type := "TEXT", affinity := .text, width := 5 },
    { name := "tbl_name", type := "TEXT", affinity := .text, width := 5 },
    { name := "rootpage", type := "INT", affinity := .integer },
    { name := "sql", type := "TEXT", affinity := .text, width := 5 }]

/-- Rows with ids counted from one. -/
def counted (rows : List (List Datum)) : List Row :=
  rows.zipIdx.map fun (values, i) => ⟨Int64.ofNat (i + 1), values⟩

/-- The number as a value. -/
def count (n : Nat) : Datum :=
  .integer (Int64.ofNat n)

/-- The truth as a value. -/
def flag (b : Bool) : Datum :=
  .integer (if b then 1 else 0)

/-- The keys of a table that are listed, in the order in which they were made. -/
def listedKeys (t : Table) : List Key :=
  (t.keys.filter fun key => t.hasIds || !key.isPrimary).mergeSort fun a b => a.page ≤ b.page

/-- The rows of the list of what the store holds. -/
def schemaRows (ts : Tables) : List (List Datum) :=
  ts.flatMap fun t =>
    [.text "table", .text t.name, .text t.name, count t.page, .text t.source] ::
      (listedKeys t).map fun key =>
        [.text "index", .text key.name, .text t.name, count key.page, .null]

/-- The list of what the store holds, if a name is one of its names. -/
def schemaTable? (ts : Tables) (name : String) : Option Table :=
  if schemaNames.any (sameName name) then
    some { name := name, columns := schemaColumns, rows := counted (schemaRows ts), page := 1 }
  else if temporarySchemaNames.any (sameName name) then
    some { name := name, columns := schemaColumns, page := 1 }
  else none

/-- The columns of a table as a report lists them, with a place for those that are computed. -/
def columnRows (isFull : Bool) (t : Table) : List (List Datum) :=
  let listed := t.columns.filter fun c => isFull || (c.computed.isNone && !c.isHidden)
  listed.zipIdx.map fun (c, i) =>
    let kind :=
      if c.computed.isSome then if c.isStored then 3 else 2 else if c.isHidden then 1 else 0
    [count i, .text c.name, .text c.type, flag c.notNull.isSome,
      if c.computed.isSome then .null else (c.default.map fun d => .text d.source).getD .null,
      count c.keyPlace] ++ if isFull then [count kind] else []

/-- The keys of a table as a report lists them. -/
def keyRows (t : Table) : List (List Datum) :=
  t.keys.zipIdx.map fun (key, i) =>
    [count i, .text key.name, flag true, .text (if key.isPrimary then "pk" else "u"), flag false]

/-- The columns of a key as a report lists them. The ids are its last column. -/
def keyColumnRows (isFull : Bool) (t : Table) (key : Key) : List (List Datum) :=
  let own := key.columns.zipIdx.map fun (c, i) =>
    let name : Datum := ((t.columns[c.position]?).map fun c => .text c.name).getD .null
    [count i, count c.position, name] ++
      if isFull then [flag c.isDescending, .text c.collation.name, flag true] else []
  own ++ if isFull && t.hasIds then
      [[count key.columns.length, .integer (-1), .null, flag false, .text "BINARY", flag false]]
    else []

/-- The words for what happens to rows that refer to another one. -/
def actionWord : ReferenceAction → String
  | .none => "NO ACTION"
  | .restrict => "RESTRICT"
  | .setNull => "SET NULL"
  | .setDefault => "SET DEFAULT"
  | .cascade => "CASCADE"

/-- The references of a table as a report lists them, the last one first. -/
def referenceRows (t : Table) : List (List Datum) :=
  t.references.reverse.zipIdx.flatMap fun (fk, i) =>
    fk.positions.zipIdx.map fun (position, j) =>
      [count i, count j, .text fk.target.table,
        ((t.columns[position]?).map fun c => .text c.name).getD .null,
        ((fk.target.columns[j]?).map Datum.text).getD .null,
        .text (actionWord fk.target.onUpdate), .text (actionWord fk.target.onDelete), .text "NONE"]

/-- The tables in the order in which they can be used. The table of sequences comes in front of the
one for which it was made. -/
def inOrderOfUse : Tables → Tables
  | t :: s :: rest =>
    if s.name == sequenceTable then s :: t :: rest else t :: inOrderOfUse (s :: rest)
  | ts => ts

/-- The tables of the store as a report lists them, the last one first, each with the name by which
it is asked for. -/
def tableRows (ts : Tables) : List (String × List Datum) :=
  let row (schema name : String) (columns : Nat) (hasIds isStrict : Bool) : List Datum :=
    [.text schema, .text name, .text "table", count columns, flag !hasIds, flag isStrict]
  (inOrderOfUse ts).reverse.map (fun t =>
    (t.name, row "main" t.name t.columns.length t.hasIds t.isStrict)) ++
    [("sqlite_master", row "main" "sqlite_schema" 5 true false),
      ("sqlite_temp_master", row "temp" "sqlite_temp_schema" 5 true false)]

/-- The parts of a store: what is kept, and what is held for a time only. -/
inductive Part where
  | main | temporary
deriving DecidableEq

/-- The part of a store that a name stands for. -/
def Part.ofName? (name : String) : Option Part :=
  if sameName name "main" then some .main
  else if sameName name "temp" then some .temporary else none

/-- What a report answers, asked about something and of a part of the store. -/
abbrev Response :=
  Tables → (about : Option String) → Option Part → Except StoreFault (List (List Datum))

/-- A report: the name of its table, its columns, whether it can be asked about something and of a
part of the store, the columns by which it is asked, and what it answers. -/
structure Report where
  title : String
  columns : List String
  isAsked : Bool
  hasPart : Bool
  askingColumns : List String
  respond : Response

namespace Report

/-- A report on the store itself. -/
def onStore (name : String) (columns : List String) (isAsked hasPart : Bool) (respond : Response) :
    Report where
  title := "pragma_" ++ name
  columns := columns
  isAsked := isAsked
  hasPart := hasPart
  askingColumns := (if isAsked then ["arg"] else []) ++ if hasPart then ["schema"] else []
  respond := respond

/-- A report on the values in a text; without a text there are none. A text cannot be read here. -/
def onText (title : String) : Report where
  title := title
  columns := ["key", "value", "type", "atom", "id", "parent", "fullkey", "path"]
  isAsked := true
  hasPart := true
  askingColumns := ["json", "root"]
  respond := fun _ about _ => if about.isNone then .ok [] else .error .badArgument

/-- A report of one value that is always the same. -/
def constant (name : String) (hasPart : Bool) (d : Datum) : Report :=
  onStore name [name] false hasPart fun _ _ _ => .ok [[d]]

/-- A report of one value for the whole store, one for what is kept, and one for what is held for a
time only. -/
def varying (name : String) (whole main temporary : Datum) : Report :=
  onStore name [name] false true fun _ _ part =>
    match part with
    | none => .ok [[whole]]
    | some .main => .ok [[main]]
    | some .temporary => .ok [[temporary]]

/-- A report that is known but cannot be answered. -/
def unanswered (name : String) (columns : List String) : Report :=
  onStore name columns false false fun _ _ _ => .error .badArgument

/-- A table of the store, or one of those that list what it holds. -/
def tableOf? (ts : Tables) (name : String) : Option Table :=
  (ts.find? name).or (schemaTable? ts name)

/-- A report about a table; about none there is nothing to say. -/
def aboutTable (name : String) (columns : List String) (f : Table → List (List Datum)) : Report :=
  onStore name columns true true fun ts about _ =>
    .ok (((about.bind (tableOf? ts)).map f).getD [])

/-- A report about a key. -/
def aboutKey (name : String) (columns : List String) (isFull : Bool) : Report :=
  onStore name columns true true fun ts about _ =>
    let found := about.bind fun about => ts.findSome? fun t =>
      (listedKeys t).findSome? fun key => if sameName key.name about then some (t, key) else none
    .ok ((found.map fun (t, key) => keyColumnRows isFull t key).getD [])

/-- The tables that a report is about: all, or one that has to be there. -/
def askedTables (ts : Tables) : Option String → Except StoreFault (List Table)
  | none => .ok ts
  | some name =>
    match tableOf? ts name with
    | some t => .ok [t]
    | none => .error (.noSuchTable name)

/-- The report that tables are sound, which they always are. -/
def soundness (name : String) : Report :=
  onStore name [name] true true fun ts about _ => do
    let _ ← askedTables ts about
    return [[.text "ok"]]

/-- The report of rows that refer to rows that are not there. As no change leaves one, there is none
as long as all references can be followed. -/
def brokenReferences : Report :=
  onStore "foreign_key_check" ["table", "rowid", "parent", "fkid"] true true fun ts about _ => do
    for t in ← askedTables ts about do
      for fk in t.references do
        if (ts.find? fk.target.table).any fun parent => (fk.target? parent).isNone then
          throw (.badDefinition t.name)
    return []

/-- The switches that are off. -/
def offSwitches : List String :=
  ["analysis_limit", "application_id", "cell_size_check", "checkpoint_fullfsync", "count_changes",
    "defer_foreign_keys", "empty_result_callbacks", "freelist_count", "full_column_names",
    "fullfsync", "hard_heap_limit", "ignore_check_constraints", "legacy_alter_table", "query_only",
    "read_uncommitted", "recursive_triggers", "reverse_unordered_selects", "secure_delete",
    "soft_heap_limit", "temp_store", "threads", "user_version", "writable_schema"]

/-- The switches that are on. -/
def onSwitches : List String :=
  ["automatic_index", "data_version", "foreign_keys", "short_column_names", "trusted_schema"]

/-- The number of pages of a store. -/
def pageCount (ts : Tables) : Nat :=
  if ts.isEmpty then 0 else ts.foldl (fun sum t => sum + 1 + t.keys.length) 1

/-- The columns of a report on columns. -/
def columnReport : List String :=
  ["cid", "name", "type", "notnull", "dflt_value", "pk"]

/-- All reports. -/
def all : List Report :=
  (offSwitches.map fun name => constant name false (count 0)) ++
    (onSwitches.map fun name => constant name false (count 1)) ++
  [constant "auto_vacuum" true (count 0),
    varying "cache_size" (.integer (-2000)) (.integer (-2000)) (count 0),
    constant "cache_spill" true (count 483),
    constant "encoding" false (.text "UTF-8"),
    varying "journal_mode" (.text "memory") (.text "memory") (.text "delete"),
    constant "journal_size_limit" true (.integer (-1)),
    varying "locking_mode" (.text "normal") (.text "exclusive") (.text "exclusive"),
    constant "max_page_count" true (count 1073741823),
    constant "page_size" true (count 4096),
    varying "synchronous" (count 2) (count 2) (count 0),
    onStore "busy_timeout" ["timeout"] false false fun _ _ _ => .ok [[count 5000]],
    onStore "collation_list" ["seq", "name"] false false fun _ _ _ => .ok
      [[count 0, .text "RTRIM"], [count 1, .text "NOCASE"], [count 2, .text "BINARY"]],
    unanswered "compile_options" ["compile_options"],
    onStore "database_list" ["seq", "name", "file"] false false fun _ _ _ =>
      .ok [[count 0, .text "main", .text ""]],
    onStore "default_cache_size" ["cache_size"] false true fun _ _ _ => .ok [[.integer (-2000)]],
    brokenReferences,
    aboutTable "foreign_key_list"
      ["id", "seq", "table", "from", "to", "on_update", "on_delete", "match"] referenceRows,
    unanswered "function_list" ["name", "builtin", "type", "enc", "narg", "flags"],
    aboutKey "index_info" ["seqno", "cid", "name"] false,
    aboutTable "index_list" ["seq", "name", "unique", "origin", "partial"] keyRows,
    aboutKey "index_xinfo" ["seqno", "cid", "name", "desc", "coll", "key"] true,
    soundness "integrity_check",
    unanswered "module_list" ["name"],
    onStore "optimize" ["optimize"] true false fun _ _ _ => .ok [],
    onStore "page_count" ["page_count"] false true fun ts _ _ => .ok [[count (pageCount ts)]],
    unanswered "pragma_list" ["name"],
    soundness "quick_check",
    onStore "schema_version" ["schema_version"] false false fun ts _ _ =>
      .ok [[count (ts.filter fun t => t.name != sequenceTable).length]],
    aboutTable "table_info" columnReport (columnRows false),
    onStore "table_list" ["schema", "name", "type", "ncol", "wr", "strict"] true false
      fun ts about _ =>
        .ok (((tableRows ts).filter fun (name, _) => about.all (sameName name)).map (·.2)),
    aboutTable "table_xinfo" (columnReport ++ ["hidden"]) (columnRows true),
    onText "json_each",
    onText "json_tree"]

/-- The report that a table with a name is. -/
def find? (name : String) : Option Report :=
  all.find? fun r => sameName r.title name

/-- The table of a report, without rows. -/
def table (r : Report) (name : String) : Table where
  name := name
  columns := r.columns.map (fun c => { name := c }) ++
    r.askingColumns.map fun c => { name := c, isHidden := true }

/-- The rows of a report that is asked about something and of a part of the store. The rows of one
that is only asked of a part do not say which. -/
def answer (r : Report) (ts : Tables) (about part : Option String) :
    Except StoreFault (List Row) := do
  let hidden := (if r.isAsked then [about] else []) ++
    if r.hasPart then [if r.isAsked then part else none] else []
  let known := part.bind Part.ofName?
  if part.isSome && known.isNone then .error .badArgument
  else
    let rows ← r.respond (if known = some .temporary then [] else ts) about known
    return counted (rows.map fun row => row ++ hidden.map fun h => (h.map Datum.text).getD .null)

end Report

/-- The tables that other parts of the store provide, with their columns. They cannot be asked here.
-/
def providedTables : List (String × List Column) :=
  let untyped (name : String) : Column := { name := name }
  let typed (name type : String) (affinity : Affinity) : Column :=
    { name := name, type := type, affinity := affinity }
  [("fts3tokenize", ["input", "token", "start", "end", "position"].map untyped),
    ("dbstat",
      [typed "name" "TEXT" .text, typed "path" "TEXT" .text, typed "pageno" "INTEGER" .integer,
        typed "pagetype" "TEXT" .text, typed "ncell" "INTEGER" .integer,
        typed "payload" "INTEGER" .integer, typed "unused" "INTEGER" .integer,
        typed "mx_payload" "INTEGER" .integer, typed "pgoffset" "INTEGER" .integer,
        typed "pgsize" "INTEGER" .integer])]

/-- The table with a name that another part of the store provides. -/
def providedTable? (name : String) : Option Table :=
  (providedTables.find? fun (own, _) => sameName own name).map fun (_, columns) =>
    { name := name, columns := columns }

end StoreBridge.Store

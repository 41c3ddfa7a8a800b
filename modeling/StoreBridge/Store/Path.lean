import StoreBridge.Store.Lookup
import StoreBridge.Store.Table

/-! The order in which the rows of a table are visited. They are visited in the order of their ids,
or in that of a key where that is expected to be cheaper: because a key is narrower than the table
and holds all columns that are needed, or because conditions fix the first columns of the key. What
is expected is reckoned in tenths of binary logarithms, without looking at the rows. -/
namespace StoreBridge.Store
open Sql Text

namespace Estimate

/-- Ten times the binary logarithm of a number, roughly. -/
def ofNat (n : Nat) : Int :=
  if n < 2 then 0
  else
    let e := n.log2
    let eighths := if 3 ≤ e then n / Nat.pow 2 (e - 3) else n * Nat.pow 2 (3 - e)
    10 * e + ([0, 2, 3, 5, 6, 7, 8, 9][eighths % 8]?.getD 0 : Int)

/-- What a sum exceeds the greater of two summands by, given their difference. -/
def surplus (difference : Nat) : Nat :=
  ([10, 10, 9, 9, 8, 8, 7, 7, 7, 6, 6, 6, 5, 5, 5, 4, 4, 4, 4, 3, 3, 3, 3, 3, 3, 2, 2, 2, 2, 2, 2,
    2][difference]?).getD (if difference ≤ 49 then 1 else 0)

/-- The estimate of a sum. -/
def add (a b : Int) : Int :=
  max a b + surplus (max a b - min a b).toNat

/-- The number of rows that a table is expected to have. -/
def rows : Int := 200

/-- The cost of finding a place in a key. -/
def seek : Int := 43

end Estimate

/-- What a condition asks of a table. -/
inductive Demand where
  /-- A column is equal to something that is the same for all rows. -/
  | equal (position : Nat) (collation : Collation)
  | isNull (position : Nat)
  | other
deriving DecidableEq

/-- A condition as it is reckoned with. -/
structure Term where
  /-- The place of the condition among all. -/
  place : Nat
  demand : Demand
  /-- How much it reduces the number of rows at least. -/
  reduction : Int
deriving DecidableEq

namespace Formula

/-- The expression is one of the integers from minus one to one. -/
def isSmallInteger : Formula → Bool
  | .natural n => n ≤ 1
  | .unary .minus (.natural n) => n ≤ 1
  | .unary .plus e => isSmallInteger e
  | _ => false

/-- The column and what it has to be equal to, if a condition is of that kind. -/
def equation? : Formula → Option (Reference × Formula × Collation)
  | .binary op a b =>
    if op == .equal || op == .is then
      match a, b with
      | .name (.column i f c), b => some (.column i f c, b, commonCollation a b)
      | .name .rowId, b => some (.rowId, b, .binary)
      | a, .name (.column i f c) =>
        some (.column i f c, a, commonCollation a (.name (.column i f c)))
      | a, .name .rowId => some (.rowId, a, .binary)
      | _, _ => none
    else none
  | _ => none

/-- A condition as it is reckoned with, if it depends on the row. -/
def term? (e : Formula) (place : Nat) : Option Term :=
  if !isOfRow e then none
  else match e, equation? e with
    | _, some (.column i _ _, other, c) =>
      some ⟨place, if isOfRow other then .other else .equal i c,
        if isSmallInteger other then 10 else 20⟩
    | .unary .isNull (.name (.column i _ _)), _ => some ⟨place, .isNull i, 0⟩
    | _, _ => some ⟨place, .other, 0⟩

end Formula

/-- A way of visiting the rows: along a key or not, with the conditions that fix its first columns,
and with its expected costs. -/
structure Path where
  key : Option Key := none
  terms : List Term := []
  /-- The columns that are needed are all in the key. -/
  isCovering : Bool := false
  cost : Int
  rows : Int

namespace Path

/-- The path in which the conditions that are not used yet reduce the number of rows. -/
def adjusted (terms : List Term) (p : Path) : Path :=
  let unused := terms.filter fun t => !p.terms.contains t
  let rows := p.rows - unused.length
  { p with rows := min rows (Estimate.rows - (unused.map (·.reduction)).foldl max 0) }

/-- A path is part of another one and promises as much in one way. -/
def isWithin (p q : Path) : Bool :=
  p.terms.length < q.terms.length && !(p.cost > q.cost && p.rows > q.rows) &&
    p.terms.all q.terms.contains && !(p.isCovering && !q.isCovering)

/-- The path with its promises brought into line with those of a path along a key. -/
def inLineWith (p q : Path) : Path :=
  if q.isWithin p then { p with cost := min q.cost p.cost, rows := min (q.rows - 1) p.rows }
  else if p.isWithin q then { p with cost := max q.cost p.cost, rows := max (q.rows + 1) p.rows }
  else p

/-- A path is as good as another one. -/
def isAsGoodAs (p q : Path) : Bool :=
  p.cost ≤ q.cost && p.rows ≤ q.rows

/-- The paths with one more, unless one of them is as good. It stands in the place of the first that
it is as good as, and the others of those are left out. -/
def insertInto (p : Path) : List Path → List Path
  | [] => [p]
  | q :: rest =>
    if q.isAsGoodAs p then q :: rest
    else if p.isAsGoodAs q then p :: removeWorse p rest
    else q :: insertInto p rest
where
  /-- The paths up to the first that is as good, without those that are worse. -/
  removeWorse (p : Path) : List Path → List Path
    | [] => []
    | q :: rest =>
      if q.isAsGoodAs p then q :: rest
      else if p.isAsGoodAs q then removeWorse p rest
      else q :: removeWorse p rest

/-- The paths with one more. -/
def including (paths : List Path) (p : Path) : List Path :=
  (if p.key.isNone then p
    else (paths.filter (·.key.isSome)).foldl inLineWith p).insertInto paths

/-- The number of rows that are expected to agree in so many columns of a key. -/
def agreeing (key : Key) (count : Nat) : Int :=
  if count = 0 then Estimate.rows
  else if count = key.columns.length then 0
  else [33, 32, 30, 28, 27][count - 1]?.getD 23

/-- The width of the rows of a table. -/
def tableWidth (t : Table) : Int :=
  Estimate.ofNat
    (4 * t.columns.foldl (fun sum c => sum + c.width) (if t.idColumn.isNone then 1 else 0))

/-- The width of the entries of a key. -/
def keyWidth (t : Table) (key : Key) : Int :=
  Estimate.ofNat (4 * key.columns.foldl (fun sum c =>
    sum + (t.columns[c.position]?.map (·.width)).getD 1) 1)

/-- The cost of visiting so many entries of a key. -/
def visiting (t : Table) (key : Key) (rows : Int) : Int :=
  rows + 1 + 15 * keyWidth t key / tableWidth t

/-- The conditions that fix a column of a key, each with what it adds to the number of rows. -/
def fixing (t : Table) (c : KeyColumn) (terms : List Term) : List (Term × Int) :=
  terms.filterMap fun term =>
    match term.demand with
    | .equal i collation =>
      if i = c.position ∧ collation = c.collation then some (term, 0) else none
    | .isNull i =>
      if i = c.position ∧ (t.columns[i]?.any (·.notNull.isNone)) then some (term, 10) else none
    | .other => none

/-- The paths with those along a key whose first columns are fixed, of which so many are left. -/
def fixed (t : Table) (key : Key) (isCovering : Bool) (terms : List Term) :
    (columns : List KeyColumn) → (used : List Term) → (rows : Int) → List Path → List Path
  | [], _, _, paths => paths
  | c :: columns, used, rows, paths =>
    (fixing t c terms).foldl (fun paths (term, more) =>
      let used := used ++ [term]
      let count := key.columns.length - columns.length
      let rows := rows + agreeing key count - agreeing key (count - 1) + more
      let cost := Estimate.add Estimate.seek (visiting t key rows)
      let cost := if isCovering then cost else Estimate.add cost (rows + 16)
      fixed t key isCovering terms columns used rows
        (Path.including paths (adjusted terms ⟨some key, used, isCovering, cost, rows⟩))) paths

/-- The paths along the keys and in the order of the ids. Where rows are changed, no key is followed
only because it is narrow. -/
def all (t : Table) (terms : List Term) (needed : List Nat) (isChange : Bool) : List Path :=
  let start := [adjusted terms { cost := Estimate.rows + 16, rows := Estimate.rows }]
  t.keys.foldl (fun paths key =>
    let isCovering := needed.all fun i => key.columns.any fun c => c.position == i
    let isNarrow := isCovering && keyWidth t key < tableWidth t && !isChange
    let paths := if isNarrow then
        Path.including paths (adjusted terms
          ⟨some key, [], true, visiting t key Estimate.rows, Estimate.rows⟩)
      else paths
    fixed t key isCovering terms key.columns [] Estimate.rows paths) start

/-- The path of least cost; of several the one with the least rows, and then the first. -/
def best? (paths : List Path) : Option Path :=
  let cost (p : Path) : Int := Estimate.add (Estimate.add 0 p.cost) 0
  paths.foldl (fun best p =>
    match best with
    | none => some p
    | some b =>
      if cost b < cost p ∨ (cost b = cost p ∧ b.rows ≤ p.rows) then some b else some p) none

end Path

/-- The rows of a table in the order in which they are visited, given the conditions on them and the
columns that are needed. -/
def Table.visited (t : Table) (conditions : List Formula) (needed : List Nat) (isChange : Bool) :
    List Row :=
  let needed := needed.filter fun i => t.idColumn != some i
  if !t.hasIds then t.rows
  else
    let terms := conditions.zipIdx.filterMap fun (e, i) => e.term? i
    match (Path.best? (Path.all t terms needed isChange)).bind (·.key) with
    | none => t.rows
    | some key => t.rows.mergeSort fun a b => Table.keyOrder key (t.valueAt a) (t.valueAt b) != .gt

end StoreBridge.Store

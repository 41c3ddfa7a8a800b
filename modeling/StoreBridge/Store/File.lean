import StoreBridge.Store
import StoreBridge.Text.Utf8

/-! The file of a store. It consists of pages of one size, the first of which begins with a header.
A table is a tree of pages with its rows in the leaves; a row that is too long for its page goes on
in others. The tree that begins on the first page lists what the store holds, and the definitions of
tables stand in it. Numbers have their highest octet in front. -/
namespace StoreBridge.Store.File
open Text

/-- The number in so many octets from a position on. -/
def number? (octets : ByteArray) (start count : Nat) : Option Nat :=
  (List.range count).foldlM (fun n i => do return 256 * n + (← octets[start + i]?).toNat) 0

/-- A number of seven bits in each octet, all of which but the last have their high bit set, and the
position behind it. After `left` more octets there is one that counts in full. -/
def shortNumberFrom? (octets : ByteArray) :
    (left start value : Nat) → Option (Nat × Nat)
  | 0, start, value => do return (256 * value + (← octets[start]?).toNat, start + 1)
  | left + 1, start, value => do
    let b := (← octets[start]?).toNat
    if b < 128 then return (128 * value + b, start + 1)
    else shortNumberFrom? octets left (start + 1) (128 * value + (b - 128))

/-- A number of up to nine octets, and the position behind it. -/
def shortNumber? (octets : ByteArray) (start : Nat) : Option (Nat × Nat) :=
  shortNumberFrom? octets 8 start 0

/-- The pages of a file: their size, and how much of each is in use. -/
structure Pages where
  octets : ByteArray
  size : Nat
  usable : Nat

/-- The text that a file of a store begins with. -/
def heading : ByteArray :=
  "SQLite format 3\x00".toUTF8

/-- The pages of a file that begins with a header and holds its texts in octets. -/
def pages? (octets : ByteArray) : Option Pages := do
  let size ← number? octets 16 2
  let size := if size = 1 then 65536 else size
  let unused ← number? octets 20 1
  let encoding ← number? octets 56 4
  if (octets.extract 0 16).data = heading.data ∧ encoding ≤ 1 then
    return ⟨octets, size, size - unused⟩
  else none

namespace Pages

/-- Where a page begins. The pages are counted from one. -/
def start (f : Pages) (page : Nat) : Nat :=
  (page - 1) * f.size

/-- Where the description of a page begins: on the first one behind the header. -/
def top (f : Pages) (page : Nat) : Nat :=
  f.start page + if page = 1 then 100 else 0

/-- How much of a row stands on its own page. -/
def share (f : Pages) (length : Nat) : Nat :=
  let least := (f.usable - 12) * 32 / 255 - 23
  let fitting := least + (length - least) % (f.usable - 4)
  if length ≤ f.usable - 35 then length else if fitting ≤ f.usable - 35 then fitting else least

/-- So many octets of a row that goes on from page to page, over at most so many of them. -/
def continued? (f : Pages) : (steps page left : Nat) → Option ByteArray
  | 0, _, _ => none
  | steps + 1, page, left =>
    if left = 0 then some ByteArray.empty
    else do
      let next ← number? f.octets (f.start page) 4
      let count := min left (f.usable - 4)
      let part := f.octets.extract (f.start page + 4) (f.start page + 4 + count)
      return part ++ (← f.continued? steps next (left - count))

/-- The row at a position of a leaf: its length, its id, and its octets. -/
def row? (f : Pages) (position : Nat) : Option ByteArray := do
  let (length, position) ← shortNumber? f.octets position
  let (_, position) ← shortNumber? f.octets position
  let share := f.share length
  let part := f.octets.extract position (position + share)
  if share = length then return part
  else do
    let next ← number? f.octets (position + share) 4
    return part ++ (← f.continued? (f.octets.size / f.size + 1) next (length - share))

/-- The positions on a page that its list names; the list begins so far behind the top. -/
def positions? (f : Pages) (page offset : Nat) : Option (List Nat) := do
  let count ← number? f.octets (f.top page + 3) 2
  (List.range count).mapM fun i => do
    return f.start page + (← number? f.octets (f.top page + offset + 2 * i) 2)

/-- The rows of the tree that begins on a page, of at most so many levels. -/
def rows? (f : Pages) : (levels page : Nat) → Option (List ByteArray)
  | 0, _ => none
  | levels + 1, page => do
    let kind ← number? f.octets (f.top page) 1
    if kind = 13 then (← f.positions? page 8).mapM f.row?
    else if kind = 5 then do
      let pages ← (← f.positions? page 12).mapM (number? f.octets · 4)
      let last ← number? f.octets (f.top page + 8) 4
      return (← (pages ++ [last]).mapM (f.rows? levels)).flatten
    else none

end Pages

/-- The number of octets of a value, by its class. -/
def valueLength (kind : Nat) : Nat :=
  if 12 ≤ kind then (kind - 12) / 2
  else [0, 1, 2, 3, 4, 6, 8, 8, 0, 0][kind]?.getD 0

/-- The texts among the values of a row, in at most so many steps: the classes of the values come
first, up to a position, and then the values. -/
def textsFrom? (row : ByteArray) (stop : Nat) :
    (steps position value : Nat) → Option (List (Option String))
  | 0, _, _ => none
  | steps + 1, position, value =>
    if stop ≤ position then some []
    else do
      let (kind, position) ← shortNumber? row position
      let after := value + valueLength kind
      let text := if 13 ≤ kind ∧ kind % 2 = 1 then
        some (String.ofList (decodeLossy (row.extract value after).toList)) else none
      return text :: (← textsFrom? row stop steps position after)

/-- The values of a row, of which only the texts are read. -/
def texts? (row : ByteArray) : Option (List (Option String)) := do
  let (stop, position) ← shortNumber? row 0
  textsFrom? row stop (stop + 1) position stop

/-- The definition of a table that a row of the first tree holds. -/
def definition? (row : List (Option String)) : Option String :=
  if row.head? = some (some "table") then (row[4]?).join else none

/-- The definitions of the tables of a file. -/
def definitions? (octets : ByteArray) : Option (List String) := do
  let f ← pages? octets
  let rows ← (← f.rows? 20 1).mapM texts?
  return rows.filterMap definition?

end File

/-- The store that a file holds, of which the definitions of tables are read but not their rows. An
empty file is an empty store. -/
def ofFile (octets : ByteArray) : Except StoreFault Store :=
  if octets.isEmpty then .ok {}
  else match File.definitions? octets with
    | none => .error .notAStore
    | some definitions => ((definitions.filterMap Sql.Definition.ofText?).foldlM withDefinition {})

end StoreBridge.Store

/-! Quoted text in statements: it stands between two quote characters, and a quote inside it is
written twice. Reading takes a quoted text off the front; it undoes writing, and leaves what
follows. -/
namespace StoreBridge.Sql

/-- The text with every quote doubled. -/
def doubled (q : Char) : List Char → List Char
  | [] => []
  | c :: cs => if c = q then q :: q :: doubled q cs else c :: doubled q cs

/-- The text between quotes. -/
def enquote (q : Char) (cs : List Char) : List Char :=
  q :: doubled q cs ++ [q]

/-- The text up to the closing quote, and what follows it. The opening quote has been read. -/
def unquote? (q : Char) : List Char → Option (List Char × List Char)
  | [] => none
  | [c] => if c = q then some ([], []) else none
  | c :: d :: cs =>
    if c = q then
      if d = q then (unquote? q cs).map fun (text, rest) => (q :: text, rest)
      else some ([], d :: cs)
    else (unquote? q (d :: cs)).map fun (text, rest) => (c :: text, rest)

theorem unquote?_doubled (q : Char) (cs rest : List Char) (h : rest.head? ≠ some q) :
    unquote? q (doubled q cs ++ q :: rest) = some (cs, rest) := by
  induction cs with
  | nil =>
    cases rest with
    | nil => simp [doubled, unquote?]
    | cons d rest =>
      have : d ≠ q := by simpa using h
      simp [doubled, unquote?, this]
  | cons c cs ih =>
    by_cases hc : c = q
    · subst hc
      simp [doubled, unquote?, ih]
    · cases hcs : doubled q cs ++ q :: rest with
      | nil => simp at hcs
      | cons d tail =>
        rw [hcs] at ih
        simp [doubled, hc, hcs, unquote?, ih]

end StoreBridge.Sql

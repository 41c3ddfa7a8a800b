import StoreBridge.Proofs.StatementTokens

/-! What the text of a statement asks of the store: the statement itself, and the placeholders that
occur in the text, each once. Characters in quotes are never taken for a placeholder, since all
that stands in quotes is one token. -/
namespace StoreBridge.Sql
open Text Token

/-- The placeholders that occur in a text, each once: those of its tokens that are named variables.
-/
def placeholdersIn (text : String) : List Placeholder :=
  ((Token.ofChars (text.toList.length + 1) text.toList).filterMap Token.placeholder?).eraseDups

section Cutting
variable {cs : List Char} {ts more : List Token}

/-- Gaps do not matter to where a statement begins and ends. -/
theorem bare_statementTokens (cs : List Char) :
    (statementTokens (firstTokens cs)).map bare =
      ((bareTokens (cs.length + 1) cs).dropWhile (isMark ";")).takeWhile
        fun t => !Grammar.isEnd [t] := by
  rw [bareTokens, List.dropWhile_map, List.takeWhile_map]
  rfl

theorem isMark_of_isInner {t : Token} (inner : t.isInner = true) : t.isMark ";" = false := by
  simp only [isInner, Grammar.isEnd, Bool.and_eq_true, Bool.not_eq_true', Bool.or_eq_false_iff]
    at inner
  exact inner.2.2

/-- A statement begins with the first token of a text unless that is a semicolon. -/
theorem bare_statementTokens_append (inner : ∀ t ∈ ts, t.isInner = true) {last : Token}
    (other : last.isMark ";" = false)
    (tokens : bareTokens (cs.length + 1) cs = ts ++ last :: more) :
    (statementTokens (firstTokens cs)).map bare =
      ts ++ (last :: more).takeWhile fun t => !Grammar.isEnd [t] := by
  have first : (ts ++ last :: more).dropWhile (isMark ";") = ts ++ last :: more := by
    cases ts with
    | nil => simp [other]
    | cons t ts => simp [isMark_of_isInner (inner t List.mem_cons_self)]
  rw [bare_statementTokens, tokens, first]
  refine List.takeWhile_append_of_pos fun t among => ?_
  have inside := inner t among
  rw [isInner, Bool.and_eq_true] at inside
  exact inside.2

theorem any_illegal_bare (ts : List Token) :
    ts.any (·.kind == .illegal) = (ts.map bare).any (·.kind == .illegal) := by
  rw [List.any_map]
  rfl

/-- A text that is cut to its end has no other tokens in its first statement. -/
theorem Cuts.statement {ps : List Placeholder} (cuts : Cuts cs ps) :
    ∃ ts, bareTokens (cs.length + 1) cs = ts ++ [⟨[], [], .stop⟩] ∧ ts.filterMap placeholder? = ps ∧
      (statementTokens (firstTokens cs)).any (·.kind == .illegal) = false := by
  obtain ⟨ts, inner, found, short, cut⟩ := cuts
  obtain ⟨steps, enough⟩ : ∃ steps, cs.length + 1 = ts.length + (steps + 1) :=
    ⟨cs.length - ts.length, by omega⟩
  have tokens : bareTokens (cs.length + 1) cs = ts ++ [⟨[], [], .stop⟩] := by
    have whole := cut (steps + 1) [] ends_nil
    rw [List.append_nil] at whole
    rw [enough, whole]
    rfl
  refine ⟨ts, tokens, found, ?_⟩
  rw [any_illegal_bare, bare_statementTokens_append inner rfl tokens, List.any_eq_false]
  intro t among
  rcases List.mem_append.mp among with here | there
  · have inside := inner t here
    simp only [isInner, Bool.and_eq_true, bne_iff_ne] at inside
    simpa using inside.1
  · cases there

/-- A text that is not read to its end has characters in its first statement that are no token. -/
theorem Breaks.statement (breaks : Breaks cs) :
    (statementTokens (firstTokens (visible cs))).any (·.kind == .illegal) = true := by
  obtain ⟨ts, bad, inner, illegal, short, cut⟩ := breaks
  obtain ⟨steps, enough⟩ : ∃ steps, (visible cs).length + 1 = ts.length + 1 + steps :=
    ⟨(visible cs).length - ts.length, by omega⟩
  obtain ⟨more, tokens⟩ := cut steps
  rw [← enough] at tokens
  have other : bad.isMark ";" = false := by
    rw [isMark, illegal]
    rfl
  have within : Grammar.isEnd [bad] = false := by
    rw [Grammar.isEnd, illegal, other]
    rfl
  rw [any_illegal_bare, bare_statementTokens_append inner other tokens]
  simp [within, illegal]

end Cutting

section Requests
variable {s : Statement}

/-- The placeholders of a statement are those that occur in its text. -/
theorem placeholdersIn_text (readable : s.Readable) : placeholdersIn s.text = s.placeholders := by
  obtain ⟨ts, tokens, found, -⟩ := (part_statement readable).lexes.cuts.statement
  have named (us : List Token) : us.filterMap placeholder? = (us.map bare).filterMap placeholder? := by
    rw [List.filterMap_map]
    rfl
  have cut : (ofChars (s.chars.length + 1) s.chars).map bare = ts ++ [⟨[], [], .stop⟩] := tokens
  rw [placeholdersIn, Statement.text, String.toList_ofList, named, cut, List.filterMap_append,
    found, placeholders_eq]
  exact congrArg List.eraseDups (List.append_nil _)

/-- A text with a null character in it asks for nothing. -/
theorem ofText?_cut (readable : s.Readable) (null : '\x00' ∈ s.chars) :
    Request.ofText? s.text = none := by
  have broken := ((part_statement readable).lexes.breaks null).statement
  have read : s.text.toList.takeWhile (· != '\x00') = visible s.chars := by
    rw [Statement.text, String.toList_ofList]
    rfl
  simp only [Request.ofText?, read, broken, if_true]

/-- Another text asks for the statement that it is of, if that does not have too many placeholders.
-/
theorem ofText?_seen (readable : s.Readable) (seen : '\x00' ∉ s.chars) :
    Request.ofText? s.text =
      if s.placeholders.length ≤ Request.variableLimit then some (Request.ofStatement s)
      else none := by
  obtain ⟨ts, -, -, whole⟩ := (part_statement readable).lexes.cuts.statement
  have read : s.text.toList.takeWhile (· != '\x00') = s.chars := by
    have front := visible_append seen []
    rw [List.append_nil] at front
    rw [Statement.text, String.toList_ofList]
    exact front.trans (List.append_nil _)
  have statement : Statement.ofChars? s.chars = some s := by
    rw [Statement.ofChars?, statement?_chars readable]
    rfl
  have same : (some s).filter (fun t => t.chars == s.chars) = some s :=
    Option.filter_some_pos (beq_self_eq_true s.chars)
  simp only [Request.ofText?, read, whole, statement, same, Bool.false_eq_true, if_false]

/-- What is asked for by the text of a statement has the placeholders that occur in the text. -/
theorem placeholders_ofText? (readable : s.Readable) {request : Request}
    (read : Request.ofText? s.text = some request) :
    request.placeholders = placeholdersIn s.text := by
  have seen : '\x00' ∉ s.chars := by
    intro null
    rw [ofText?_cut readable null] at read
    cases read
  rw [ofText?_seen readable seen] at read
  split at read
  · cases read
    exact (placeholdersIn_text readable).symm
  · cases read

end Requests

end StoreBridge.Sql

import SqlComposer.Proofs.QuoteState

/-!
# The lexemes of a condition

What a condition means depends on how a database reads it, and the first step of that is to see
where its words, signs and quoted texts begin and end. Blanks only separate, and a word counts
as a keyword in any case. A name after a dot or an `@` is no keyword, so both are characters of
words here.

Text that ends outside quotes and text after a blank are read apart: `lexFrom_blank` is what
lets conditions that are joined by ` AND ` be read one by one.
-/

set_option autoImplicit false

namespace SqlComposer.Sql

open SqlComposer.Text

/-- A unit of SQL text. -/
inductive Lexeme where
  | and
  | or
  | xor
  | not
  | between
  /-- `CASE`, which an `END` closes. -/
  | caseOpening
  /-- `END`, which is a name unless a `CASE` is open. -/
  | caseClosing
  /-- `(` -/
  | opening
  /-- `)` -/
  | closing
  /-- A name, a number or another keyword. -/
  | word (text : List Char)
  /-- A quoted text with its quotes. -/
  | quoted (text : List Char)
  /-- Any other character. -/
  | sign (c : Char)
  deriving DecidableEq, Repr

/-- The words that conditions are built with. -/
def keywords : List (String × Lexeme) :=
  [("AND", .and), ("OR", .or), ("XOR", .xor), ("NOT", .not), ("BETWEEN", .between),
    ("CASE", .caseOpening), ("END", .caseClosing)]

/-- A word as a lexeme: a keyword in any case, or itself. -/
def Lexeme.ofWord (text : List Char) : Lexeme :=
  ((keywords.find? fun e => e.1.toList == text.map Char.toUpper).map (·.2)).getD (.word text)

/-- A character that a word goes on with. -/
def isLexemeChar (c : Char) : Bool := isWord c || c == '$' || c == '.' || c == '@'

/-- The lexeme of a word, if one has begun. -/
def wordLexemes (begun : List Char) : List Lexeme :=
  if begun.isEmpty then [] else [Lexeme.ofWord begun]

/-- The lexeme of a character outside words; blanks have none. -/
def signLexemes (c : Char) : List Lexeme :=
  if isBlank c then []
  else if c == '(' then [.opening]
  else if c == ')' then [.closing]
  else [.sign c]

/-- The lexemes of a text that is scanned from a region on, after the beginning of a word or of
a quoted text. -/
def lexFrom : Region → (begun : List Char) → List Char → List Lexeme
  | .outside, begun, [] => wordLexemes begun
  | _, begun, [] => [.quoted begun]
  | .outside, begun, c :: cs =>
    if isQuote c then wordLexemes begun ++ lexFrom (.inside c) [c] cs
    else if isLexemeChar c then lexFrom .outside (begun ++ [c]) cs
    else wordLexemes begun ++ (signLexemes c ++ lexFrom .outside [] cs)
  | r, begun, c :: cs =>
    if r.step c = .outside then .quoted (begun ++ [c]) :: lexFrom .outside [] cs
    else lexFrom (r.step c) (begun ++ [c]) cs

/-- The lexemes of a text. -/
def lexemes (text : String) : List Lexeme := lexFrom .outside [] text.toList

/-! ## Lexemes of composed text -/

theorem lexFrom_outside (begun : List Char) (c : Char) (cs : List Char) :
    lexFrom .outside begun (c :: cs)
      = if isQuote c then wordLexemes begun ++ lexFrom (.inside c) [c] cs
        else if isLexemeChar c then lexFrom .outside (begun ++ [c]) cs
        else wordLexemes begun ++ (signLexemes c ++ lexFrom .outside [] cs) := by
  rw [lexFrom]

theorem lexFrom_quoted {r : Region} (hr : r ≠ .outside) (begun : List Char) (c : Char)
    (cs : List Char) :
    lexFrom r begun (c :: cs)
      = if r.step c = .outside then .quoted (begun ++ [c]) :: lexFrom .outside [] cs
        else lexFrom (r.step c) (begun ++ [c]) cs := by
  cases r with
  | outside => exact absurd rfl hr
  | inside q => rw [lexFrom]; exact fun h => nomatch h
  | escaped q => rw [lexFrom]; exact fun h => nomatch h

/-- A blank outside quotes separates what stands before it from what stands after it. -/
theorem lexFrom_blank {r : Region} (begun as bs : List Char) (h : r.scan as = .outside) :
    lexFrom r begun (as ++ ' ' :: bs) = lexFrom r begun as ++ lexFrom .outside [] bs := by
  induction as generalizing r begun with
  | nil =>
    obtain rfl : r = .outside := h
    rw [List.nil_append, lexFrom_outside, if_neg (by decide), if_neg (by decide)]
    rfl
  | cons c as ih =>
    rw [Region.scan_cons] at h
    rw [List.cons_append]
    by_cases hr : r = .outside
    · subst hr
      rw [lexFrom_outside, lexFrom_outside]
      by_cases hquote : isQuote c = true
      · rw [show Region.outside.step c = .inside c by simp [Region.step, hquote]] at h
        rw [if_pos hquote, if_pos hquote, ih _ h, List.append_assoc]
      · rw [Region.step_outside (Bool.eq_false_iff.mpr hquote)] at h
        rw [if_neg hquote, if_neg hquote]
        by_cases hword : isLexemeChar c = true
        · rw [if_pos hword, if_pos hword, ih _ h]
        · rw [if_neg hword, if_neg hword, ih _ h, List.append_assoc, List.append_assoc]
    · rw [lexFrom_quoted hr, lexFrom_quoted hr]
      by_cases hclose : r.step c = .outside
      · rw [hclose] at h
        rw [if_pos hclose, if_pos hclose, ih _ h, List.cons_append]
      · rw [if_neg hclose, if_neg hclose, ih _ h]

/-- Two texts that are joined by `AND` are read apart. -/
theorem lexemes_and {s : String} (hs : QuoteClosed s) (t : String) :
    lexemes (s ++ " AND " ++ t) = lexemes s ++ .and :: lexemes t := by
  have htext : (s ++ " AND " ++ t).toList = s.toList ++ ' ' :: ("AND".toList ++ ' ' :: t.toList) := by
    simp
  unfold lexemes
  rw [htext, lexFrom_blank [] _ _ hs, lexFrom_blank [] _ _ (by decide)]
  rfl

/-! ## Lexemes of names and lists -/

/-- A lexeme without a meaning of its own in a condition. -/
def Lexeme.Plain : Lexeme → Prop
  | .word _ => True
  | .quoted _ => True
  | .sign c => c ≠ '|' ∧ c ≠ '&'
  | _ => False

/-- Signs are read one by one. -/
theorem lexFrom_signs {cs : List Char} (h : ∀ c ∈ cs, isQuote c = false ∧ isLexemeChar c = false)
    (rest : List Char) :
    lexFrom .outside [] (cs ++ rest) = cs.flatMap signLexemes ++ lexFrom .outside [] rest := by
  induction cs with
  | nil => rfl
  | cons c cs ih =>
    obtain ⟨hquote, hword⟩ := h c List.mem_cons_self
    rw [List.cons_append, lexFrom_outside, hquote, hword, List.flatMap_cons, List.append_assoc,
      ih fun d hd => h d (List.mem_cons_of_mem c hd)]
    rfl

/-- The rest of a quoted segment of a name is one quoted text or several. -/
theorem lexFrom_nameChars (begun cs rest : List Char) :
    ∃ ls : List Lexeme, ls ≠ [] ∧ (∀ x ∈ ls, x.Plain)
      ∧ lexFrom (.inside '\x60') begun (cs.flatMap nameChar ++ '\x60' :: rest)
        = ls ++ lexFrom .outside [] rest := by
  have hstay (c : Char) (hc : c ≠ '\x60') (begun tail : List Char) :
      lexFrom (.inside '\x60') begun (c :: tail) = lexFrom (.inside '\x60') (begun ++ [c]) tail := by
    rw [lexFrom_quoted (by simp)]
    simp [Region.step, hc]
  have hclose (begun tail : List Char) : lexFrom (.inside '\x60') begun ('\x60' :: tail)
      = .quoted (begun ++ ['\x60']) :: lexFrom .outside [] tail := by
    rw [lexFrom_quoted (by simp), if_pos (by decide)]
  induction cs generalizing begun with
  | nil => exact ⟨[.quoted (begun ++ ['\x60'])], by simp, by simp [Lexeme.Plain], hclose _ _⟩
  | cons c cs ih =>
    rw [List.flatMap_cons, List.append_assoc]
    by_cases hquote : c = '\x60'
    · -- A doubled backtick ends one quoted text and begins the next.
      subst hquote
      obtain ⟨ls, -, hplain, hls⟩ := ih ['\x60']
      refine ⟨.quoted (begun ++ ['\x60']) :: ls, by simp, ?_, ?_⟩
      · rintro x (_ | ⟨_, hx⟩)
        · trivial
        · exact hplain x hx
      · rw [show nameChar '\x60' = ['\x60', '\x60'] by decide, List.cons_append, hclose,
          List.cons_append, List.nil_append, lexFrom_outside, if_pos (by decide), hls]
        rfl
    · by_cases hpercent : c = '%'
      · subst hpercent
        obtain ⟨ls, hne, hplain, hls⟩ := ih (begun ++ ['%'] ++ ['%'])
        refine ⟨ls, hne, hplain, ?_⟩
        rw [show nameChar '%' = ['%', '%'] by decide, List.cons_append, hstay _ (by decide),
          List.cons_append, List.nil_append, hstay _ (by decide), hls]
      · obtain ⟨ls, hne, hplain, hls⟩ := ih (begun ++ [c])
        refine ⟨ls, hne, hplain, ?_⟩
        rw [show nameChar c = [c] by simp [nameChar, hquote, hpercent], List.cons_append,
          List.nil_append, hstay c hquote, hls]

/-- A segment of a name has plain lexemes. -/
theorem lexFrom_quoteSegment (begun segment rest : List Char) :
    ∃ ls : List Lexeme, ls ≠ [] ∧ (∀ x ∈ ls, x.Plain)
      ∧ lexFrom .outside begun (quoteSegment segment ++ rest)
        = wordLexemes begun ++ (ls ++ lexFrom .outside [] rest) := by
  unfold quoteSegment
  by_cases hstar : segment = ['*']
  · refine ⟨[.sign '*'], by simp, by simp [Lexeme.Plain], ?_⟩
    rw [if_pos hstar, hstar, List.cons_append, List.nil_append, lexFrom_outside,
      if_neg (by decide), if_neg (by decide)]
    rfl
  · obtain ⟨ls, hne, hplain, hls⟩ := lexFrom_nameChars ['\x60'] segment rest
    refine ⟨ls, hne, hplain, ?_⟩
    rw [if_neg hstar, List.cons_append, List.append_assoc, lexFrom_outside, if_pos (by decide)]
    exact congrArg _ hls

/-- Segments with dots between them have plain lexemes. -/
theorem lexFrom_segments (begun : List Char) {parts : List (List Char)} (hne : parts ≠ []) :
    ∃ ls : List Lexeme, ls ≠ [] ∧ (∀ x ∈ ls, x.Plain)
      ∧ lexFrom .outside begun (['.'].intercalate (parts.map quoteSegment))
        = wordLexemes begun ++ ls := by
  induction parts generalizing begun with
  | nil => exact absurd rfl hne
  | cons part parts ih =>
    cases parts with
    | nil =>
      obtain ⟨ls, hls, hplain, hlex⟩ := lexFrom_quoteSegment begun part []
      refine ⟨ls, hls, hplain, ?_⟩
      simpa [lexFrom, wordLexemes] using hlex
    | cons next parts =>
      obtain ⟨ls, -, hplain, hlex⟩ := lexFrom_quoteSegment begun part
        ('.' :: ['.'].intercalate ((next :: parts).map quoteSegment))
      obtain ⟨ms, -, hplain', hlex'⟩ := ih ['.'] (by simp)
      refine ⟨ls ++ (.word ['.'] :: ms), by simp, ?_, ?_⟩
      · intro x hx
        rcases List.mem_append.mp hx with hx | hx
        · exact hplain x hx
        · rcases List.mem_cons.mp hx with rfl | hx
          · trivial
          · exact hplain' x hx
      · rw [List.map_cons, List.map_cons, List.intercalate_cons_cons, List.append_assoc,
          List.cons_append, List.nil_append, ← List.map_cons, hlex, lexFrom_outside,
          if_neg (by decide), if_pos (by decide), List.nil_append, hlex']
        rfl

/-- A quoted name has plain lexemes, at least one. -/
theorem lexemes_quoteName (name : String) :
    lexemes (quoteName name) ≠ [] ∧ ∀ x ∈ lexemes (quoteName name), x.Plain := by
  have hne : segments name ≠ [] := List.splitOn_ne_nil _ _
  obtain ⟨ls, hls, hplain, hlex⟩ := lexFrom_segments [] hne
  have hname : lexemes (quoteName name) = ls := by
    unfold lexemes quoteName
    rw [String.toList_ofList, hlex]
    rfl
  rw [hname]
  exact ⟨hls, hplain⟩

/-- The characters of a list of placeholders. -/
theorem mem_placeholders {n : Nat} {c : Char} (h : c ∈ (placeholders n).toList) :
    c = '?' ∨ c = ',' ∨ c = ' ' := by
  unfold placeholders at h
  rw [String.toList_intercalate, List.map_replicate] at h
  induction n with
  | zero => exact absurd h List.not_mem_nil
  | succ n ih =>
    cases n with
    | zero => exact Or.inl (List.mem_singleton.mp h)
    | succ n =>
      rw [List.replicate_succ, List.replicate_succ, List.intercalate_cons_cons,
        ← List.replicate_succ] at h
      rcases List.mem_append.mp h with h | h
      · simpa [or_assoc] using h
      · exact ih h

/-- A list of placeholders in parentheses, as it is read. -/
theorem lexFrom_placeholders (n : Nat) :
    ∃ ls : List Lexeme, (∀ x ∈ ls, x.Plain)
      ∧ lexFrom .outside [] ((placeholders n).toList ++ [')']) = ls ++ [.closing] := by
  refine ⟨(placeholders n).toList.flatMap signLexemes, ?_, ?_⟩
  · intro x hx
    obtain ⟨c, hc, hx⟩ := List.mem_flatMap.mp hx
    rcases mem_placeholders hc with rfl | rfl | rfl
    · rw [show signLexemes '?' = [.sign '?'] by decide, List.mem_singleton] at hx
      rw [hx]
      exact ⟨by decide, by decide⟩
    · rw [show signLexemes ',' = [.sign ','] by decide, List.mem_singleton] at hx
      rw [hx]
      exact ⟨by decide, by decide⟩
    · rw [show signLexemes ' ' = [] by decide] at hx
      exact absurd hx List.not_mem_nil
  · have hsigns : ∀ c ∈ (placeholders n).toList, isQuote c = false ∧ isLexemeChar c = false := by
      intro c hc
      rcases mem_placeholders hc with rfl | rfl | rfl <;> decide
    rw [lexFrom_signs hsigns]
    rfl

end SqlComposer.Sql

import SqlComposer.Proofs.Binding

/-!
# Markers for placeholders

Placeholders are counted when a query is composed and named when its statement is bound, so both
have to find the same ones in every text, also in one whose quotes are not closed. Here they are
found a third way: `placeholderOffsets` goes through a text with a quote and an offset, and jumps
over an escaped character instead of remembering the backslash. Both scans keep in step with it, a
jump against two of their steps (`offsetsFrom_eq`), so the count is the number of offsets, and the
named statement has the `k`-th marker at the `k`-th offset and at no other (`namedFrom_eq`).

A statement without enough values is given up in the middle. That it is given up for the same
number of placeholders is `bindFrom_eq`.
-/

set_option autoImplicit false

namespace SqlComposer.Sql

/-! ## Offsets of placeholders -/

/-- The quote after a character that opens one or closes the one it stands in. -/
def quoteAfter : (quote : Option Char) → Char → Option Char
  | none, c => if isQuote c then some c else none
  | some q, c => if c == q then none else some q

/-- The offsets of the placeholders in a text at an offset, in a quote or in none. In a quote, a
backslash takes the next character with it, if there is one, except between backticks. -/
def offsetsFrom : (quote : Option Char) → (offset : Nat) → List Char → List Nat
  | _, _, [] => []
  | none, offset, c :: cs =>
    if c = '?' then offset :: offsetsFrom none (offset + 1) cs
    else offsetsFrom (quoteAfter none c) (offset + 1) cs
  | some q, offset, c :: cs =>
    if c == '\\' && q != '\x60' then
      match cs with
      | [] => []
      | _ :: cs => offsetsFrom (some q) (offset + 2) cs
    else offsetsFrom (quoteAfter (some q) c) (offset + 1) cs

/-- The offsets of the placeholders in SQL text. -/
def placeholderOffsets (sql : String) : List Nat := offsetsFrom none 0 sql.toList

/-- The offsets at which a scan that starts in a region finds a placeholder. -/
def marksFrom : Region → (offset : Nat) → List Char → List Nat
  | _, _, [] => []
  | r, offset, c :: cs =>
    (if r = .outside ∧ c = '?' then [offset] else []) ++ marksFrom (r.step c) (offset + 1) cs

/-- The region of a scan that knows only its quote. -/
def regionIn : Option Char → Region
  | none => .outside
  | some q => .inside q

theorem length_marksFrom (r : Region) (offset : Nat) (cs : List Char) :
    (marksFrom r offset cs).length = countFrom r cs := by
  induction cs generalizing r offset with
  | nil => rfl
  | cons c cs ih =>
    rw [marksFrom, countFrom, List.length_append, ih]
    split <;> rfl

theorem marksFrom_append (r : Region) (offset : Nat) (as bs : List Char) :
    marksFrom r offset (as ++ bs)
      = marksFrom r offset as ++ marksFrom (r.scan as) (offset + as.length) bs := by
  induction as generalizing r offset with
  | nil => rfl
  | cons c cs ih =>
    rw [List.cons_append, marksFrom, marksFrom, ih, Region.scan_cons, List.append_assoc,
      List.length_cons, Nat.add_right_comm, Nat.add_assoc]

/-- A text has marks between its ends, in order. -/
theorem marksFrom_ordered (r : Region) (offset : Nat) (cs : List Char) :
    (marksFrom r offset cs).Pairwise (· < ·)
      ∧ ∀ i ∈ marksFrom r offset cs, offset ≤ i ∧ i < offset + cs.length := by
  induction cs generalizing r offset with
  | nil => simp [marksFrom]
  | cons c cs ih =>
    obtain ⟨hordered, hbounds⟩ := ih (r.step c) (offset + 1)
    have hbounds' : ∀ i ∈ marksFrom (r.step c) (offset + 1) cs,
        offset < i ∧ i < offset + (c :: cs).length := by
      intro i hi
      have := hbounds i hi
      rw [List.length_cons]
      omega
    rw [marksFrom]
    by_cases hmark : r = .outside ∧ c = '?'
    · rw [if_pos hmark, List.singleton_append, List.pairwise_cons, List.forall_mem_cons]
      refine ⟨⟨fun i hi => (hbounds' i hi).1, hordered⟩, by simp, ?_⟩
      intro i hi
      have := hbounds' i hi
      omega
    · rw [if_neg hmark, List.nil_append]
      refine ⟨hordered, ?_⟩
      intro i hi
      have := hbounds' i hi
      omega

theorem regionIn_quoteAfter {quote : Option Char} {c : Char}
    (h : ∀ q, quote = some q → ¬ (c == '\\' && q != '\x60')) :
    regionIn (quoteAfter quote c) = (regionIn quote).step c := by
  cases quote with
  | none =>
    by_cases hc : isQuote c
    · simp [quoteAfter, regionIn, Region.step, hc]
    · simp [quoteAfter, regionIn, Region.step, hc]
  | some q =>
    have hstep : (Region.inside q).step c = if c == q then .outside else .inside q := by
      simp only [Region.step, if_neg (h q rfl)]
    rw [regionIn, hstep]
    by_cases hc : c = q
    · simp [quoteAfter, regionIn, hc]
    · simp [quoteAfter, regionIn, hc]

/-- A scan that jumps over escaped characters and one that goes through them find the same
placeholders. -/
theorem offsetsFrom_eq (quote : Option Char) (offset : Nat) (cs : List Char) :
    offsetsFrom quote offset cs = marksFrom (regionIn quote) offset cs := by
  fun_induction offsetsFrom quote offset cs with
  | case1 => rfl
  | case2 offset cs ih =>
    rw [ih]
    rfl
  | case3 offset c cs hc ih =>
    rw [ih, regionIn_quoteAfter (by simp), marksFrom, if_neg (fun h => hc h.2), List.nil_append]
  | case4 q offset c hescape => simp [marksFrom, regionIn]
  | case5 q offset c hescape d cs ih =>
    -- one jump against two steps, the second of them in an escape
    have hescaped : (Region.inside q).step c = .escaped q := by simp only [Region.step, hescape, if_true]
    rw [ih, regionIn, marksFrom, marksFrom, hescaped]
    simp [Region.step]
  | case6 q offset c cs hescape ih =>
    rw [ih, regionIn_quoteAfter (by simpa using hescape), marksFrom]
    simp [regionIn]

/-- Each offset stands for one placeholder that is counted. -/
theorem length_placeholderOffsets (sql : String) :
    (placeholderOffsets sql).length = countPlaceholders sql := by
  rw [placeholderOffsets, offsetsFrom_eq]
  exact length_marksFrom .outside 0 sql.toList

/-! ## The named statement -/

/-- The marker of the `k`-th placeholder. -/
def marker (k : Nat) : List Char := ':' :: (paramName k).toList

/-- The character at an offset of a text as it stands in the named statement: the `k`-th
placeholder is the `k`-th marker, and any other character is kept. -/
def writtenAt (cs : List Char) (offset : Nat) (c : Char) : List Char :=
  if offset ∈ offsetsFrom none 0 cs then marker ((offsetsFrom none 0 cs).idxOf offset)
  else keptChar (Region.scan .outside (cs.take offset)) c cs[offset + 1]?

/-- The offsets in a text by those before, at and after one of its characters. -/
theorem offsetsFrom_split (before : List Char) (c : Char) (cs : List Char) :
    offsetsFrom none 0 (before ++ c :: cs)
      = marksFrom .outside 0 before
        ++ ((if Region.scan .outside before = .outside ∧ c = '?' then [before.length] else [])
          ++ marksFrom ((Region.scan .outside before).step c) (before.length + 1) cs) := by
  rw [offsetsFrom_eq, regionIn, marksFrom_append, Nat.zero_add, marksFrom]

/-- A placeholder is written as the marker that counts the placeholders before it. -/
theorem writtenAt_mark {before cs : List Char} (h : Region.scan .outside before = .outside) :
    writtenAt (before ++ '?' :: cs) before.length '?' = marker (countFrom .outside before) := by
  have hsplit := offsetsFrom_split before '?' cs
  rw [if_pos ⟨h, rfl⟩] at hsplit
  have hbefore : before.length ∉ marksFrom .outside 0 before := by
    intro hmem
    have := (marksFrom_ordered .outside 0 before).2 _ hmem
    omega
  unfold writtenAt
  rw [hsplit, if_pos (by simp), List.idxOf_append, if_neg hbefore, List.singleton_append,
    List.idxOf_cons_self, Nat.zero_add, length_marksFrom]

/-- What is no placeholder is kept. -/
theorem writtenAt_kept {before cs : List Char} {c : Char}
    (h : ¬ (Region.scan .outside before = .outside ∧ c = '?')) :
    writtenAt (before ++ c :: cs) before.length c
      = keptChar (Region.scan .outside before) c cs.head? := by
  have hnone : before.length ∉ offsetsFrom none 0 (before ++ c :: cs) := by
    rw [offsetsFrom_split, if_neg h, List.nil_append]
    intro hmem
    rcases List.mem_append.mp hmem with hmem | hmem
    · have := (marksFrom_ordered .outside 0 before).2 _ hmem
      omega
    · have := (marksFrom_ordered ((Region.scan .outside before).step c) (before.length + 1) cs).2 _
        hmem
      omega
  have hnext : (before ++ c :: cs)[before.length + 1]? = cs.head? := by
    rw [List.head?_eq_getElem?, List.getElem?_append_right (by omega), Nat.add_sub_cancel_left,
      List.getElem?_cons_succ]
  unfold writtenAt
  rw [if_neg hnone, hnext, List.take_left]

/-- The rest of a statement is named character by character, its markers counting on from the
placeholders before it. -/
theorem namedFrom_eq (before cs : List Char) :
    namedFrom (Region.scan .outside before) (countFrom .outside before) cs
      = (cs.zipIdx before.length).flatMap fun (c, offset) =>
          writtenAt (before ++ cs) offset c := by
  induction cs generalizing before with
  | nil => rfl
  | cons c cs ih =>
    have hrest := ih (before ++ [c])
    rw [List.append_assoc, List.singleton_append, List.length_append, List.length_singleton,
      Region.scan_append, countFrom_append] at hrest
    rw [List.zipIdx_cons, List.flatMap_cons, ← hrest]
    change _ = writtenAt (before ++ c :: cs) before.length c ++ _
    by_cases hmark : Region.scan .outside before = .outside ∧ c = '?'
    · obtain ⟨hregion, rfl⟩ := hmark
      rw [writtenAt_mark hregion, hregion]
      rfl
    · rw [writtenAt_kept hmark, namedFrom, if_neg hmark]
      simp [countFrom, hmark]

theorem paramName_injective {i j : Nat} (h : paramName i = paramName j) : i = j := by
  have htext : (paramName i).toList = (paramName j).toList := by rw [h]
  simp only [paramName, String.toList_append, List.append_cancel_left_eq,
    Nat.toString_eq_ofList_toDigits, String.toList_ofList] at htext
  rw [← Nat.ofDigitChars_ten_toDigits (n := i), htext, Nat.ofDigitChars_ten_toDigits]

/-- Named values are the values under the names of the first placeholders. -/
theorem names_namedValues (index : Nat) (vs : List Value) :
    (namedValues index vs).map (·.1) = (List.range' index vs.length).map paramName
      ∧ (namedValues index vs).map (·.2) = vs := by
  induction vs generalizing index with
  | nil => exact ⟨rfl, rfl⟩
  | cons v vs ih =>
    obtain ⟨hnames, hvalues⟩ := ih (index + 1)
    constructor
    · rw [namedValues, List.map_cons, hnames, List.length_cons, List.range'_succ, List.map_cons]
    · rw [namedValues, List.map_cons, hvalues]

/-- A statement that is bound has used up its values. -/
theorem length_of_bindPositional {sql : String} {values : List Value} {b : BoundStatement}
    (h : bindPositional sql values = .ok b) : values.length = countPlaceholders sql := by
  unfold bindPositional at h
  rw [bindFrom_eq] at h
  change values.length = countFrom .outside sql.toList
  by_cases hcount : countFrom .outside sql.toList ≤ values.length
  · rw [if_pos hcount] at h
    rcases Nat.eq_or_lt_of_le hcount with heq | hlt
    · exact heq.symm
    · have hleft : values.drop (countFrom .outside sql.toList) ≠ [] := by
        intro hnone
        have := List.drop_eq_nil_iff.mp hnone
        omega
      obtain ⟨v, left, hv⟩ := List.exists_cons_of_ne_nil hleft
      simp only [hv] at h
      cases h
  · rw [if_neg hcount] at h
    cases h

/-- What binding a statement with some values comes to. -/
structure BoundStatement.Binds (b : BoundStatement) (sql : String) (values : List Value) :
    Prop where
  /-- The placeholders stand one after the other, and there is one for each value. -/
  ordered : (placeholderOffsets sql).Pairwise (· < ·)
  counted : (placeholderOffsets sql).length = values.length
  /-- Only the `k`-th placeholder is replaced, by the `k`-th marker. -/
  statement : b.statement.toList
    = sql.toList.zipIdx.flatMap fun (c, offset) => writtenAt sql.toList offset c
  /-- The parameters are the values in order, each under a name of its own: `p0`, `p1` and so
  on. -/
  names : b.params.map (·.1) = (List.range values.length).map paramName
  distinct : (b.params.map (·.1)).Nodup
  taken : b.params.map (·.2) = values

/-- A statement is bound by as many values as placeholders are counted in it, whether its quotes
are closed or not, and its `k`-th placeholder takes the `k`-th of them. Any other number of values
is refused as a mismatch. -/
theorem bindPositional_counts (sql : String) (values : List Value) :
    (placeholderOffsets sql).length = countPlaceholders sql
      ∧ ((∃ b, bindPositional sql values = .ok b) ↔ values.length = countPlaceholders sql)
      ∧ (∀ b, bindPositional sql values = .ok b → b.Binds sql values)
      ∧ ∀ r, bindPositional sql values = .error r →
        ∃ e, r.failure = .error e ∧ e.code = .placeholderMismatch := by
  have hmismatch : ∀ r, bindPositional sql values = .error r →
      ∃ e, r.failure = .error e ∧ e.code = .placeholderMismatch := by
    intro r hr
    unfold bindPositional at hr
    split at hr
    · obtain rfl := Except.error.inj hr
      exact ⟨_, rfl, rfl⟩
    · cases hr
    · obtain rfl := Except.error.inj hr
      exact ⟨_, rfl, rfl⟩
  have hlength : ∀ b, bindPositional sql values = .ok b →
      values.length = countPlaceholders sql := fun _ hb => length_of_bindPositional hb
  refine ⟨length_placeholderOffsets sql, ⟨fun ⟨b, hb⟩ => hlength b hb, fun h => ?_⟩, ?_,
    hmismatch⟩
  · exact ⟨_, bindPositional_of_length h⟩
  · intro b hb
    have hcount := hlength b hb
    rw [bindPositional_of_length hcount] at hb
    obtain rfl := Except.ok.inj hb
    obtain ⟨hnames, hvalues⟩ := names_namedValues 0 values
    rw [← List.range_eq_range'] at hnames
    refine ⟨?_, (length_placeholderOffsets sql).trans hcount.symm, ?_, hnames, ?_, hvalues⟩
    · rw [placeholderOffsets, offsetsFrom_eq]
      exact (marksFrom_ordered .outside 0 sql.toList).1
    · rw [String.toList_ofList]
      exact namedFrom_eq [] sql.toList
    · rw [hnames]
      exact List.pairwise_map.mpr (List.nodup_range.imp fun hne h => hne (paramName_injective h))

end SqlComposer.Sql

import SqlComposer.Proofs.Markers

/-!
# Names that are read in a bound statement

The layer that sends a bound statement reads it once more: what looks like a name behind a colon
is taken for a parameter. So binding has to keep the colons of the SQL itself from being read, in
quotes and outside, and the markers have to stand where they are read. `namesRead` is that reading,
and `names_read_are_markers` says that it finds the markers, each at its place, and nothing else.

A marker can only be read if nothing sticks to it. `StandsApart` is that condition on the
placeholder.
-/

set_option autoImplicit false

namespace SqlComposer.Sql

open SqlComposer.Text

/-! ## Reading -/

/-- Whether a colon can begin a name after a character, or at the beginning of a text. -/
def beginsName : (before : Option Char) → Bool
  | none => true
  | some c => !(c == ':' || c == '\\' || isWord c)

/-- The name behind a colon: all word characters that follow, unless there are none or another
colon follows them. -/
def nameBehind? (rest : List Char) : Option (List Char) :=
  if rest.takeWhile isWord = [] ∨ (rest.dropWhile isWord).head? = some ':' then none
  else some (rest.takeWhile isWord)

/-- The names that are read in a text after a character, with the offsets of their colons. -/
def namesFrom (before : Option Char) (offset : Nat) : List Char → List (Nat × String)
  | [] => []
  | c :: cs =>
    (if c = ':' ∧ beginsName before then
      (nameBehind? cs).toList.map fun name => (offset, String.ofList name)
    else []) ++ namesFrom (some c) (offset + 1) cs

/-- The names that are read in a statement, with the offsets of their colons. -/
def namesRead (statement : String) : List (Nat × String) := namesFrom none 0 statement.toList

theorem namesFrom_colon {before : Option Char} {offset : Nat} {cs : List Char}
    (h : beginsName before = false ∨ nameBehind? cs = none) :
    namesFrom before offset (':' :: cs) = namesFrom (some ':') (offset + 1) cs := by
  rw [namesFrom]
  rcases h with h | h
  · rw [if_neg (by simp [h]), List.nil_append]
  · rw [h]
    split <;> rfl

theorem namesFrom_other {before : Option Char} {offset : Nat} {c : Char} {cs : List Char}
    (h : c ≠ ':') : namesFrom before offset (c :: cs) = namesFrom (some c) (offset + 1) cs := by
  rw [namesFrom, if_neg (fun hc => h hc.1), List.nil_append]

theorem ne_colon_of_isWord {c : Char} (h : isWord c = true) : c ≠ ':' := by
  rintro rfl
  exact absurd h (by decide)

/-- No name begins within a word. -/
theorem namesFrom_word {word : List Char} (hword : ∀ c ∈ word, isWord c = true)
    (before : Option Char) (offset : Nat) (rest : List Char) :
    namesFrom before offset (word ++ rest)
      = namesFrom (word.getLast?.or before) (offset + word.length) rest := by
  induction word generalizing before offset with
  | nil => rfl
  | cons c word ih =>
    have hc : c ≠ ':' := ne_colon_of_isWord (hword c List.mem_cons_self)
    have hrest := ih (fun d hd => hword d (List.mem_cons_of_mem c hd)) (some c) (offset + 1)
    rw [List.cons_append, namesFrom_other hc, hrest, List.getLast?_cons, List.length_cons]
    have hlast : word.getLast?.or (some c) = (some (word.getLast?.getD c)).or before := by
      cases word.getLast? <;> rfl
    rw [hlast, Nat.add_right_comm, Nat.add_assoc]

theorem nameBehind?_eq_none {rest : List Char} (h : ∀ d ∈ rest.head?, isWord d = false) :
    nameBehind? rest = none := by
  cases rest with
  | nil => rfl
  | cons d rest =>
    have hd : isWord d = false := h d rfl
    simp [nameBehind?, hd]

/-- A word is read as a name if neither a word character nor a colon follows. -/
theorem nameBehind?_word {word rest : List Char} (hne : word ≠ [])
    (hword : ∀ c ∈ word, isWord c = true)
    (hrest : ∀ d ∈ rest.head?, isWord d = false ∧ d ≠ ':') :
    nameBehind? (word ++ rest) = some word := by
  have hend : ∀ d ∈ rest.head?, isWord d = false := fun d hd => (hrest d hd).1
  have hcolon : rest.head? ≠ some ':' := fun h => (hrest ':' h).2 rfl
  unfold nameBehind?
  rw [takeWhile_of_boundary hword hend, dropWhile_of_boundary hword hend,
    if_neg (not_or.mpr ⟨hne, hcolon⟩)]

/-! ## Markers -/

theorem isWord_of_isDigit {c : Char} (h : c.isDigit = true) : isWord c = true := by
  have hbounds : 48 ≤ c.toNat ∧ c.toNat ≤ 57 := by
    simpa [Char.isDigit, UInt32.le_iff_toNat_le] using h
  have hdigit : isAsciiDigit c = true := by
    simpa [isAsciiDigit, Char.le_def, UInt32.le_iff_toNat_le] using hbounds
  unfold isWord
  rw [if_pos (by omega), hdigit, Bool.or_true, Bool.true_or]

theorem paramName_word (k : Nat) :
    (paramName k).toList ≠ [] ∧ ∀ c ∈ (paramName k).toList, isWord c = true := by
  have hlist : (paramName k).toList = 'p' :: Nat.toDigits 10 k := by
    simp [paramName]
  rw [hlist]
  refine ⟨List.cons_ne_nil _ _, fun c hc => ?_⟩
  rcases List.mem_cons.mp hc with rfl | hc
  · decide
  · exact isWord_of_isDigit (Nat.isDigit_of_mem_toDigits (by decide) (by decide) hc)

/-- What is written for the rest of a text begins with a colon, a backslash or the first character
of the rest. -/
theorem head?_namedFrom {r : Region} {index : Nat} {cs : List Char} {d : Char}
    (h : d ∈ (namedFrom r index cs).head?) : d = ':' ∨ d = '\\' ∨ d ∈ cs.head? := by
  cases cs with
  | nil => cases h
  | cons c cs =>
    rw [namedFrom] at h
    split at h
    · cases h
      exact .inl rfl
    · unfold keptChar at h
      split at h
      · exact .inr (.inr h)
      · split at h
        · cases h
          exact .inr (.inl rfl)
        · exact .inr (.inr h)

/-- Outside quotes, what is written for the rest of a text begins with the first character of the
rest, unless that is a placeholder or a colon. -/
theorem head?_namedFrom_outside {index : Nat} {cs : List Char}
    (h : ∀ d ∈ cs.head?, d ≠ '?' ∧ d ≠ ':') : (namedFrom .outside index cs).head? = cs.head? := by
  cases cs with
  | nil => rfl
  | cons d cs =>
    obtain ⟨hmark, hcolon⟩ := h d rfl
    simp [namedFrom, keptChar, hmark, hcolon]

/-- No name is read in a character that is kept: a colon is, or comes after, a backslash, or what is
written next is no word character. -/
theorem namesFrom_kept {r : Region} {c : Char} {cs : List Char} {before : Option Char} {index : Nat}
    (hescaped : ∀ q, r = .escaped q → before = some '\\') (offset : Nat) :
    namesFrom before offset (keptChar r c cs.head? ++ namedFrom (r.step c) index cs)
      = namesFrom (some c) (offset + (keptChar r c cs.head?).length)
          (namedFrom (r.step c) index cs) := by
  by_cases hc : c = ':'
  · subst hc
    by_cases hr : ∃ q, r = .escaped q
    · obtain ⟨q, rfl⟩ := hr
      have hbefore : beginsName before = false := by
        rw [hescaped q rfl]
        rfl
      exact namesFrom_colon (.inl hbefore)
    · have hkept : keptChar r ':' cs.head? = if startsName cs.head? then ['\\', ':'] else [':'] := by
        cases r with
        | escaped q => exact absurd ⟨q, rfl⟩ hr
        | _ => simp [keptChar]
      rw [hkept]
      split
      · rw [List.cons_append, namesFrom_other (by decide), List.singleton_append,
          namesFrom_colon (.inl (by decide))]
        rfl
      · next hstart =>
        have hnext : ∀ d ∈ (namedFrom (r.step ':') index cs).head?, isWord d = false := by
          intro d hd
          rcases head?_namedFrom hd with rfl | rfl | hd
          · decide
          · decide
          · rw [show cs.head? = some d from hd] at hstart
            simpa [startsName] using hstart
        exact namesFrom_colon (.inr (nameBehind?_eq_none hnext))
  · have hkept : keptChar r c cs.head? = [c] := by
      cases r <;> simp [keptChar, hc]
    rw [hkept]
    exact namesFrom_other hc

/-! ## Placeholders that stand apart -/

/-- Nothing sticks to the character at an offset: no word character, colon, backslash or question
mark stands right before it, and no word character or colon right after it. -/
structure StandsApart (cs : List Char) (offset : Nat) : Prop where
  before : ∀ d ∈ (cs.take offset).getLast?, isWord d = false ∧ d ≠ ':' ∧ d ≠ '\\' ∧ d ≠ '?'
  after : ∀ d ∈ cs[offset + 1]?, isWord d = false ∧ d ≠ ':'

-- only the characters that are there are looked at, and not all that there are
instance (cs : List Char) (offset : Nat) : Decidable (StandsApart cs offset) :=
  @decidable_of_iff _
    ((∀ d ∈ (cs.take offset).getLast?, isWord d = false ∧ d ≠ ':' ∧ d ≠ '\\' ∧ d ≠ '?')
      ∧ ∀ d ∈ cs[offset + 1]?, isWord d = false ∧ d ≠ ':')
    ⟨fun h => ⟨h.1, h.2⟩, fun h => ⟨h.before, h.after⟩⟩
    (@instDecidableAnd _ _ (Option.decidableForallMem _) (Option.decidableForallMem _))

/-- What is written into the named statement for the first characters of a text. -/
def writtenBefore (cs : List Char) (offset : Nat) : List Char :=
  (cs.zipIdx.take offset).flatMap fun (c, i) => writtenAt cs i c

theorem writtenBefore_succ (before : List Char) (c : Char) (cs : List Char) :
    writtenBefore (before ++ c :: cs) (before.length + 1)
      = writtenBefore (before ++ c :: cs) before.length
        ++ writtenAt (before ++ c :: cs) before.length c := by
  have hsplit : (before ++ c :: cs).zipIdx
      = before.zipIdx ++ (c, before.length) :: cs.zipIdx (before.length + 1) := by
    rw [List.zipIdx_append, Nat.zero_add, List.zipIdx_cons]
  have hlength : before.zipIdx.length = before.length := List.length_zipIdx
  have htake : (before ++ c :: cs).zipIdx.take (before.length + 1)
      = (before ++ c :: cs).zipIdx.take before.length ++ [(c, before.length)] := by
    rw [hsplit, ← hlength, List.take_left, List.take_append, List.take_of_length_le (by omega)]
    simp
  unfold writtenBefore
  rw [htake, List.flatMap_append, List.flatMap_singleton]

/-- A scan that stands after a backslash in quotes has just passed it. -/
theorem getLast?_of_escaped {before : List Char} {q : Char}
    (h : Region.scan .outside before = .escaped q) : before.getLast? = some '\\' := by
  rcases List.eq_nil_or_concat before with rfl | ⟨front, c, rfl⟩
  · cases h
  · rw [List.concat_eq_append, Region.scan_append, Region.scan_cons, Region.scan_nil] at h
    rw [List.concat_eq_append, List.getLast?_append, List.getLast?_singleton, Option.some_or]
    cases hr : Region.scan .outside front with
    | outside =>
      rw [hr, Region.step] at h
      split at h <;> cases h
    | inside p =>
      rw [hr, Region.step] at h
      split at h
      · next hc =>
        rw [show c = '\\' by simpa using (Bool.and_eq_true_iff.mp hc).1]
      · split at h <;> cases h
    | escaped p =>
      rw [hr] at h
      cases h

section Apart

variable {all : List Char}
  (hapart : ∀ i ∈ offsetsFrom none 0 all, StandsApart all i)
include hapart

/-- The neighbours of a placeholder leave its marker alone. -/
theorem neighbours_apart {before cs : List Char} (hall : all = before ++ '?' :: cs)
    (hregion : Region.scan .outside before = .outside) :
    (∀ d ∈ before.getLast?, isWord d = false ∧ d ≠ ':' ∧ d ≠ '\\' ∧ d ≠ '?')
      ∧ ∀ d ∈ cs.head?, isWord d = false ∧ d ≠ ':' := by
  subst hall
  have hoffset : before.length ∈ offsetsFrom none 0 (before ++ '?' :: cs) := by
    rw [offsetsFrom_split, if_pos ⟨hregion, rfl⟩]
    simp
  obtain ⟨hbefore, hafter⟩ := hapart _ hoffset
  rw [List.take_left] at hbefore
  have hnext : (before ++ '?' :: cs)[before.length + 1]? = cs.head? := by
    rw [List.head?_eq_getElem?, List.getElem?_append_right (by omega), Nat.add_sub_cancel_left,
      List.getElem?_cons_succ]
  rw [hnext] at hafter
  exact ⟨hbefore, hafter⟩

/-- No two placeholders stand next to each other. -/
theorem not_doubled {before cs : List Char} (hall : all = before ++ '?' :: cs)
    (hregion : Region.scan .outside before = .outside) : cs.head? ≠ some '?' := by
  intro hhead
  obtain ⟨ds, rfl⟩ : ∃ ds, cs = '?' :: ds := by
    cases cs with
    | nil => cases hhead
    | cons d ds =>
      cases hhead
      exact ⟨ds, rfl⟩
  have hall' : all = (before ++ ['?']) ++ '?' :: ds := by simp [hall]
  have hregion' : Region.scan .outside (before ++ ['?']) = .outside := by
    rw [Region.scan_append, hregion]
    decide
  obtain ⟨hbefore, -⟩ := neighbours_apart hapart hall' hregion'
  exact (hbefore '?' (by simp)).2.2.2 rfl

/-- In what is written for the rest of a statement, the markers are read. `before` is the last
character written for the part that was passed, which is its last character unless that is a
placeholder. -/
theorem namesFrom_namedFrom (passed : List Char) {cs : List Char} (before : Option Char)
    (hall : all = passed ++ cs) (hbefore : before = passed.getLast? ∨ passed.getLast? = some '?') :
    namesFrom before (writtenBefore all passed.length).length
        (namedFrom (Region.scan .outside passed) (countFrom .outside passed) cs)
      = ((marksFrom (Region.scan .outside passed) passed.length cs).zipIdx
          (countFrom .outside passed)).map fun (i, k) =>
            ((writtenBefore all i).length, paramName k) := by
  induction cs generalizing passed before with
  | nil => rfl
  | cons c cs ih =>
    have hall' : all = (passed ++ [c]) ++ cs := by rw [hall, List.append_assoc, List.singleton_append]
    have hlast : (passed ++ [c]).getLast? = some c := by simp
    have hwritten : writtenBefore all (passed ++ [c]).length
        = writtenBefore all passed.length ++ writtenAt all passed.length c := by
      rw [List.length_append, List.length_singleton, hall, writtenBefore_succ]
    rw [marksFrom]
    by_cases hmark : Region.scan .outside passed = .outside ∧ c = '?'
    · obtain ⟨hregion, rfl⟩ := hmark
      obtain ⟨hleft, hright⟩ := neighbours_apart hapart hall hregion
      have hplain : before = passed.getLast? :=
        hbefore.resolve_right fun h => (hleft '?' h).2.2.2 rfl
      have hopen : beginsName before = true := by
        rw [hplain]
        cases hd : passed.getLast? with
        | none => rfl
        | some d =>
          obtain ⟨hword, hcolon, hslash, -⟩ := hleft d hd
          simp [beginsName, hword, hcolon, hslash]
      have hdoubled := not_doubled hapart hall hregion
      have hnext : ∀ d ∈ (namedFrom .outside (countFrom .outside passed + 1) cs).head?,
          isWord d = false ∧ d ≠ ':' := by
        intro d hd
        rw [head?_namedFrom_outside fun e he =>
          ⟨fun h => hdoubled (h ▸ he), (hright e he).2⟩] at hd
        exact hright d hd
      obtain ⟨hne, hword⟩ := paramName_word (countFrom .outside passed)
      have hmarker : writtenAt all passed.length '?' = marker (countFrom .outside passed) := by
        rw [hall]
        exact writtenAt_mark hregion
      have hrest := ih (passed ++ ['?'])
        ((paramName (countFrom .outside passed)).toList.getLast?.or (some ':')) hall' (.inr hlast)
      have hscan : Region.scan .outside (passed ++ ['?']) = .outside := by
        rw [Region.scan_append, hregion]
        decide
      have hcount : countFrom .outside (passed ++ ['?']) = countFrom .outside passed + 1 := by
        rw [countFrom_append, hregion]
        rfl
      rw [hscan, hcount, hwritten, hmarker, List.length_append, List.length_append,
        List.length_singleton] at hrest
      rw [hregion, namedFrom, if_pos ⟨rfl, rfl⟩, if_pos ⟨rfl, rfl⟩, namesFrom,
        if_pos ⟨rfl, hopen⟩, nameBehind?_word hne hword hnext, namesFrom_word hword,
        List.singleton_append, List.zipIdx_cons, List.map_cons, Option.toList_some,
        List.map_singleton, String.ofList_toList]
      have hlength : (writtenBefore all passed.length).length + 1
          + (paramName (countFrom .outside passed)).toList.length
          = (writtenBefore all passed.length).length
            + (marker (countFrom .outside passed)).length := by
        rw [marker, List.length_cons]
        omega
      have hstep : Region.outside.step '?' = .outside := by decide
      rw [hlength, hrest, hstep]
      rfl
    · have hkept : writtenAt all passed.length c
          = keptChar (Region.scan .outside passed) c cs.head? := by
        rw [hall]
        exact writtenAt_kept hmark
      have hescaped : ∀ q, Region.scan .outside passed = .escaped q → before = some '\\' := by
        intro q hq
        have hslash := getLast?_of_escaped hq
        rcases hbefore with h | h
        · rw [h, hslash]
        · rw [hslash] at h
          cases h
      have hrest := ih (passed ++ [c]) (some c) hall' (.inl hlast.symm)
      have hcount : countFrom .outside (passed ++ [c]) = countFrom .outside passed := by
        rw [countFrom_append, countFrom, if_neg hmark]
        rfl
      rw [Region.scan_append, Region.scan_cons, Region.scan_nil, hcount, hwritten, hkept,
        List.length_append, List.length_append, List.length_singleton] at hrest
      rw [namedFrom, if_neg hmark, if_neg hmark, List.nil_append, namesFrom_kept hescaped, hrest]

end Apart

/-- The names that are read in a bound statement are those of its parameters, `p0`, `p1` and so on,
each once and in order, where the placeholders of the SQL stood. So nothing else in the SQL is read
as a name, whatever its colons stand next to. -/
theorem names_read_are_markers {sql : String} {values : List Value}
    (hlength : values.length = countPlaceholders sql)
    (hapart : ∀ i ∈ placeholderOffsets sql, StandsApart sql.toList i) :
    ∃ b, bindPositional sql values = .ok b
      ∧ (namesRead b.statement).map (·.2) = (List.range values.length).map paramName
      ∧ b.params.map (·.1) = (namesRead b.statement).map (·.2)
      ∧ b.statement.toList = writtenBefore sql.toList sql.toList.length
      ∧ namesRead b.statement = (placeholderOffsets sql).zipIdx.map fun (i, k) =>
          ((writtenBefore sql.toList i).length, paramName k) := by
  have hread : namesFrom none 0 (namedFrom .outside 0 sql.toList)
      = (placeholderOffsets sql).zipIdx.map fun (i, k) =>
        ((writtenBefore sql.toList i).length, paramName k) := by
    rw [placeholderOffsets, offsetsFrom_eq]
    exact namesFrom_namedFrom hapart [] none rfl (.inl rfl)
  have hnames : ((placeholderOffsets sql).zipIdx.map fun (i, k) =>
      ((writtenBefore sql.toList i).length, paramName k)).map (·.2)
        = (List.range values.length).map paramName := by
    rw [hlength, ← length_placeholderOffsets, List.map_map, List.range_eq_range',
      ← List.zipIdx_map_snd 0, List.map_map]
    rfl
  have htext : (String.ofList (namedFrom .outside 0 sql.toList)).toList
      = writtenBefore sql.toList sql.toList.length := by
    have hall : sql.toList.zipIdx.take sql.toList.length = sql.toList.zipIdx :=
      List.take_of_length_le (Nat.le_of_eq List.length_zipIdx)
    rw [String.toList_ofList, writtenBefore, hall]
    exact namedFrom_eq [] sql.toList
  refine ⟨_, bindPositional_of_length hlength, ?_, ?_, htext, ?_⟩
  · rw [namesRead, String.toList_ofList, hread, hnames]
  · rw [namesRead, String.toList_ofList, hread, hnames, List.range_eq_range']
    exact (names_namedValues 0 values).1
  · rw [namesRead, String.toList_ofList, hread]

/-- A statement with colons of all sorts beside its placeholders: a time, a cast, a path, and names
after backslashes. -/
def colonsEverywhere : String :=
  "SELECT '12:30', a::text, 'x\\:p0', \"\\\\:p1\", :p1, \\:p0 FROM t WHERE `:p0` = ? AND j = '?' < ?"

/-- Only its two markers are read. -/
theorem colonsEverywhere_unread :
    ([Value.int 1, .int 2].length = countPlaceholders colonsEverywhere
      ∧ ∀ i ∈ placeholderOffsets colonsEverywhere, StandsApart colonsEverywhere.toList i)
      ∧ ∃ b, bindPositional colonsEverywhere [.int 1, .int 2] = .ok b
        ∧ (namesRead b.statement).map (·.2) = ["p0", "p1"] := by
  have hlength : [Value.int 1, .int 2].length = countPlaceholders colonsEverywhere := by decide +kernel
  have hapart : ∀ i ∈ placeholderOffsets colonsEverywhere,
      StandsApart colonsEverywhere.toList i := by decide +kernel
  obtain ⟨b, hbound, hnames, -⟩ := names_read_are_markers hlength hapart
  exact ⟨⟨hlength, hapart⟩, b, hbound, hnames⟩

end SqlComposer.Sql

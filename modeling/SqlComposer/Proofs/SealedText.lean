import Mathlib.Data.List.TakeWhile
import SqlComposer.Proofs.Marks
import SqlComposer.Sql.Literal
import SqlComposer.Sql.Token

/-!
# Sealed texts

A statement that takes no values is composed of texts that have no placeholder either. A text is
`Sealed` if it is clean and has none, and sealed texts can be put next to each other around a
`Seam`, as clean ones can around a joint.

Three kinds of texts are sealed whatever they are made from. What stands in quotes is, for a name
in backticks as for a literal, in which a backslash takes the character with it that could end
it. What is written bare is `Plain`: it was checked to hold no character that anything special is
made of. And a number holds none but minus signs, never two in a row.
-/

set_option autoImplicit false

namespace SqlComposer.Sql

open SqlComposer.Text

/-! ## Sealed texts and seams -/

/-- A clean text without placeholders. -/
structure Sealed (sql : String) : Prop extends Clean sql where
  unheld : countPlaceholders sql = 0

instance (sql : String) : Decidable (Sealed sql) :=
  decidable_of_iff (Clean sql ∧ countPlaceholders sql = 0) ⟨fun h => ⟨h.1, h.2⟩, fun h => ⟨h.1, h.2⟩⟩

theorem Sealed.inert {s : String} (h : Sealed s) : Inert s := ⟨h.closed, h.unheld⟩

/-- A clean text that is inert is sealed. -/
theorem Sealed.of_clean {s : String} (hclean : Clean s) (hinert : Inert s) : Sealed s :=
  ⟨hclean, hinert.2⟩

/-- Whether quotes, marks or placeholders are made of a character. -/
def isSpecial (c : Char) : Bool := isQuote c || isHalfMark c || c == ';' || c == '#' || c == '?'

/-- Text in which no character means anything outside quotes. -/
def Plain (cs : List Char) : Prop := ∀ c ∈ cs, isSpecial c = false

instance (cs : List Char) : Decidable (Plain cs) :=
  decidable_of_iff (cs.any isSpecial = false) (by simp [Plain])

/-- A character that is not special is no quote, no half of a mark and no mark of its own. -/
theorem isSpecial_eq_false {c : Char} : isSpecial c = false ↔ isQuote c = false
    ∧ isHalfMark c = false ∧ c ≠ ';' ∧ c ≠ '#' ∧ c ≠ '?' := by
  simp [isSpecial, and_assoc]

/-- A text without special characters is sealed. -/
theorem sealed_of_plain {s : String} (h : Plain s.toList) : Sealed s := by
  refine .of_clean (clean_of_plain fun c hc => ?_) (inert_of_plain fun c hc => ?_)
  · obtain ⟨hquote, hhalf, hsemicolon, hhash, -⟩ := isSpecial_eq_false.mp (h c hc)
    exact ⟨hquote, hhalf, hsemicolon, hhash⟩
  · obtain ⟨hquote, -, -, -, hmark⟩ := isSpecial_eq_false.mp (h c hc)
    exact ⟨hquote, hmark⟩

/-- Plain text that is not empty, and so can stand between any sealed texts. -/
structure Seam (sql : String) : Prop where
  plain : Plain sql.toList
  nonempty : sql.toList ≠ []

instance (sql : String) : Decidable (Seam sql) :=
  decidable_of_iff (Plain sql.toList ∧ sql.toList ≠ []) ⟨fun h => ⟨h.1, h.2⟩, fun h => ⟨h.1, h.2⟩⟩

section Composition

variable {s t seam : String}

theorem Seam.joint (h : Seam seam) : Joint seam := by
  have hhalf (c : Char) (hc : c ∈ seam.toList) : isHalfMark c = false :=
    (isSpecial_eq_false.mp (h.plain c hc)).2.1
  have hunquoted : unquoted seam = seam.toList :=
    unquotedFrom_outside fun c hc => (isSpecial_eq_false.mp (h.plain c hc)).1
  refine ⟨(sealed_of_plain h.plain).toClean, ?_, ?_⟩
  · rw [hunquoted, List.head?_eq_some_head h.nonempty]
    simpa using hhalf _ (List.head_mem h.nonempty)
  · rw [hunquoted, List.getLast?_eq_some_getLast h.nonempty]
    simpa using hhalf _ (List.getLast_mem h.nonempty)

theorem Seam.inert (h : Seam seam) : Inert seam := (sealed_of_plain h.plain).inert

/-- Two sealed texts with a seam between them are sealed. -/
theorem Sealed.join (hs : Sealed s) (hseam : Seam seam) (ht : Sealed t) :
    Sealed (s ++ seam ++ t) :=
  .of_clean (hs.toClean.join hseam.joint ht.toClean) ((hs.inert.append hseam.inert).append ht.inert)

theorem Seam.before (hseam : Seam seam) (ht : Sealed t) : Sealed (seam ++ t) :=
  .of_clean (hseam.joint.before ht.toClean) (hseam.inert.append ht.inert)

theorem Seam.after (hs : Sealed s) (hseam : Seam seam) : Sealed (s ++ seam) :=
  .of_clean (hseam.joint.after hs.toClean) (hs.inert.append hseam.inert)

/-- So are any number of them. -/
theorem Sealed.intercalate (hseam : Seam seam) {ts : List String} (hts : ∀ t ∈ ts, Sealed t) :
    Sealed (seam.intercalate ts) :=
  .of_clean (.intercalate hseam.joint fun t ht => (hts t ht).toClean)
    (.intercalate hseam.inert fun t ht => (hts t ht).inert)

end Composition

/-! ## Free text and names -/

/-- Free text that ends outside quotes is sealed if it has no placeholder and no sign of the
denylist. -/
theorem sealed_of_safe {fragment : String} (hinert : Inert fragment)
    (hsafe : dangerIn? fragment = none) : Sealed fragment :=
  .of_clean (clean_of_safe hinert.1 hsafe) hinert

theorem sealed_checkFragment {kind : FragmentKind} {fragment checked : String}
    (hinert : Inert fragment) (h : checkFragment kind fragment = .ok checked) : Sealed checked := by
  unfold checkFragment at h
  split at h
  · cases h
  · next hsafe =>
    cases h
    exact sealed_of_safe hinert hsafe

theorem sealed_quoteName (name : String) : Sealed (quoteName name) :=
  .of_clean (clean_quoteName name) (inert_quoteName name)

theorem sealed_nameList (names : List String) : Sealed (nameList names) :=
  .of_clean (clean_nameList names) (inert_nameList names)

/-! ## Literals -/

/-- The placeholders of a text are its question marks outside quotes. -/
theorem countFrom_eq_count (r : Region) (cs : List Char) :
    countFrom r cs = (unquotedFrom r cs).count '?' := by
  induction cs generalizing r with
  | nil => rfl
  | cons c cs ih =>
    rw [countFrom, unquotedFrom, List.count_cons, ih, Nat.add_comm]
    congr 1
    by_cases hmark : r = .outside ∧ c = '?'
    · obtain ⟨rfl, rfl⟩ := hmark
      rfl
    · rw [if_neg hmark]
      by_cases hshown : r = .outside ∧ r.step c = .outside
      · have hc : c ≠ '?' := fun hc => hmark ⟨hshown.1, hc⟩
        simp [if_pos hshown, hc]
      · simp [if_neg hshown]

/-- A text that leaves only blanks outside quotes is sealed if it ends outside quotes. -/
theorem sealed_of_blank {sql : String} (hclosed : QuoteClosed sql)
    (hblank : ∀ c ∈ unquoted sql, c = ' ') : Sealed sql := by
  refine ⟨⟨hclosed, unmarked_of_forall fun c hc => ?_⟩, ?_⟩
  · rw [hblank c hc]
    decide
  · rw [countPlaceholders, countFrom_eq_count, List.count_eq_zero]
    intro hmark
    exact absurd (hblank _ hmark) (by decide)

/-- A character of a literal stays inside its quotes and leaves no trace outside. -/
theorem literalChar_inside (c : Char) :
    (Region.inside '\'').scan (literalChar c) = .inside '\''
      ∧ ∀ d ∈ unquotedFrom (.inside '\'') (literalChar c), d = ' ' := by
  unfold literalChar
  split_ifs with h0 hslash hn hr hz hdouble hquote
  -- what is not escaped is neither a backslash nor the quote
  case neg => simp [Region.step, hslash, hquote, unquotedFrom]
  all_goals simp [Region.step, unquotedFrom]

/-- The escaped characters of a literal stay between its quotes and show nothing. -/
theorem literalChars_inside (cs : List Char) :
    (Region.inside '\'').scan (cs.flatMap literalChar) = .inside '\''
      ∧ ∀ d ∈ unquotedFrom (.inside '\'') (cs.flatMap literalChar), d = ' ' := by
  induction cs with
  | nil => exact ⟨rfl, List.forall_mem_nil _⟩
  | cons c cs ih =>
    obtain ⟨hscan, hblank⟩ := literalChar_inside c
    rw [List.flatMap_cons, Region.scan_append, unquotedFrom_append, hscan]
    refine ⟨ih.1, fun d hd => ?_⟩
    rcases List.mem_append.mp hd with hd | hd
    · exact hblank d hd
    · exact ih.2 d hd

/-- A text literal is sealed, whatever the text. -/
theorem sealed_quoteText (s : String) : Sealed (quoteText s) := by
  obtain ⟨hscan, hblank⟩ := literalChars_inside s.toList
  have hopen : Region.outside.step '\'' = .inside '\'' := by decide
  have hclose : unquotedFrom (.inside '\'') ['\''] = [' '] := by decide
  apply sealed_of_blank
  · unfold QuoteClosed quoteText
    rw [String.toList_ofList, Region.scan_cons, hopen, Region.scan_append, hscan]
    decide
  · unfold unquoted quoteText
    rw [String.toList_ofList, unquotedFrom, hopen, if_neg (by simp), unquotedFrom_append, hscan,
      hclose]
    intro d hd
    rcases List.mem_cons.mp hd with rfl | hd
    · rfl
    · rcases List.mem_append.mp hd with hd | hd
      · exact hblank d hd
      · exact List.mem_singleton.mp hd

/-! ## Text written bare -/

/-- The special characters. -/
def special : List Char := ['\'', '"', '\x60', '-', '/', '*', ';', '#', '?']

theorem mem_special {c : Char} (h : isSpecial c = true) : c ∈ special := by
  simpa [isSpecial, isQuote, isHalfMark, special, or_assoc] using h

/-- Text of one class of characters is plain if no special character is of the class. -/
theorem plain_of_class {p : Char → Bool} (hp : special.any p = false) {cs : List Char}
    (h : ∀ c ∈ cs, p c = true) : Plain cs := by
  intro c hc
  rw [Bool.eq_false_iff]
  intro hspecial
  exact List.any_eq_false.mp hp c (mem_special hspecial) (h c hc)

theorem plain_nil : Plain [] :=
  List.forall_mem_nil _

theorem Plain.append {as bs : List Char} (ha : Plain as) (hb : Plain bs) : Plain (as ++ bs) := by
  intro c hc
  rcases List.mem_append.mp hc with hc | hc
  · exact ha c hc
  · exact hb c hc

theorem plain_cons {c : Char} {cs : List Char} (hc : isSpecial c = false) (hcs : Plain cs) :
    Plain (c :: cs) := by
  intro d hd
  rcases List.mem_cons.mp hd with rfl | hd
  · exact hc
  · exact hcs d hd

/-- The text without one newline at its end is plain only if the text is. -/
theorem plain_of_dropFinalNewline {cs : List Char} (h : Plain (dropFinalNewline cs)) :
    Plain cs := by
  unfold dropFinalNewline at h
  split at h
  · next rest hreverse =>
    rw [← List.reverse_reverse cs, hreverse, List.reverse_cons]
    exact h.append (plain_cons (by decide) plain_nil)
  · exact h

/-- A bare name is sealed. -/
theorem sealed_of_isToken {text : String} (h : isToken text = true) : Sealed text := by
  refine sealed_of_plain (plain_of_dropFinalNewline ?_)
  have hchars := (Bool.and_eq_true_iff.mp h).2
  exact plain_of_class (p := isTokenChar) (by decide) (List.all_eq_true.mp hchars)

theorem sealed_checkToken {option text checked : String}
    (h : checkToken option text = .ok checked) : Sealed checked := by
  unfold checkToken at h
  split at h
  · next htoken =>
    cases h
    exact sealed_of_isToken htoken
  · cases h

theorem plain_takeWhile {p : Char → Bool} (hp : special.any p = false) (cs : List Char) :
    Plain (cs.takeWhile p) :=
  plain_of_class hp fun _ hc => List.mem_takeWhile_imp hc

theorem isWord_special : special.any isWord = false := by decide

/-- A target of a foreign key is two words, a pair of parentheses and perhaps a newline. -/
theorem sealed_of_isReference {text : String} (h : isReference text = true) : Sealed text := by
  refine sealed_of_plain (plain_of_dropFinalNewline ?_)
  unfold isReference at h
  dsimp only at h
  split at h
  · next rest hrest =>
    have hclose : rest.dropWhile isWord = [')'] := by
      simpa using (Bool.and_eq_true_iff.mp h).2
    rw [← List.takeWhile_append_dropWhile (p := isWord) (l := dropFinalNewline text.toList), hrest,
      ← List.takeWhile_append_dropWhile (p := isWord) (l := rest), hclose]
    exact (plain_takeWhile isWord_special _).append (plain_cons (by decide)
      ((plain_takeWhile isWord_special _).append (plain_cons (by decide) plain_nil)))
  · cases h

theorem sealed_checkReference {text checked : String}
    (h : checkReference text = .ok checked) : Sealed checked := by
  unfold checkReference at h
  split at h
  · next hreference =>
    cases h
    exact sealed_of_isReference hreference
  · cases h

/-! ## Numbers -/

theorem isDigit_special : special.any isDigit = false := by decide

theorem isBlank_special : special.any isBlank = false := by decide

theorem plain_toDigits (n : Nat) : Plain (Nat.toDigits 10 n) :=
  plain_of_class (p := Char.isDigit) (by decide) fun _ hc =>
    Nat.isDigit_of_mem_toDigits (by decide) (by decide) hc

/-- The text of a number: plain but for minus signs, of which no two are next to each other. -/
structure Numeral (cs : List Char) : Prop where
  chars : ∀ c ∈ cs, c = '-' ∨ isSpecial c = false
  apart : cs.IsChain fun c d => c = '-' → d ≠ '-'

/-- A plain text counts as a numeral. -/
theorem Plain.numeral {cs : List Char} (h : Plain cs) : Numeral cs := by
  refine ⟨fun c hc => .inr (h c hc), ?_⟩
  rw [List.isChain_iff_forall_rel_of_append_cons_cons]
  rintro c d before after rfl rfl
  exact absurd (h '-' (by simp)) (by decide)

/-- Plain text in front of a number. -/
theorem Numeral.after {a b : List Char} (ha : Plain a) (hb : Numeral b) : Numeral (a ++ b) := by
  refine ⟨fun c hc => ?_, .append ha.numeral.apart hb.apart ?_⟩
  · rcases List.mem_append.mp hc with hc | hc
    · exact .inr (ha c hc)
    · exact hb.chars c hc
  · rintro c hc d - rfl
    exact absurd (ha '-' (List.mem_of_getLast? hc)) (by decide)

/-- The text of a number that begins with no minus sign. -/
structure Unsigned (cs : List Char) : Prop extends Numeral cs where
  head : ∀ c ∈ cs.head?, c ≠ '-'

theorem Plain.unsigned {cs : List Char} (h : Plain cs) : Unsigned cs := by
  refine ⟨h.numeral, ?_⟩
  rintro c hc rfl
  exact absurd (h '-' (List.mem_of_head? hc)) (by decide)

theorem Unsigned.minus {cs : List Char} (h : Unsigned cs) : Numeral ('-' :: cs) := by
  refine ⟨fun c hc => ?_, List.isChain_cons.mpr ⟨fun c hc _ => h.head c hc, h.apart⟩⟩
  rcases List.mem_cons.mp hc with rfl | hc
  · exact .inl rfl
  · exact h.chars c hc

/-- A numeral is sealed. -/
theorem sealed_of_numeral {s : String} (h : Numeral s.toList) : Sealed s := by
  have hchar (c : Char) (hc : c ∈ s.toList) : isQuote c = false ∧ c ≠ ';' ∧ c ≠ '#' ∧ c ≠ '?'
      ∧ (isHalfMark c = true → c = '-') := by
    rcases h.chars c hc with rfl | hspecial
    · decide
    · simp [isSpecial_eq_false.mp hspecial]
  have hquotes : ∀ c ∈ s.toList, isQuote c = false := fun c hc => (hchar c hc).1
  refine .of_clean ⟨Region.scan_outside hquotes, unmarked_iff.mpr ?_⟩
    (inert_of_plain fun c hc => ⟨(hchar c hc).1, (hchar c hc).2.2.2.1⟩)
  rw [unquoted, unquotedFrom_outside hquotes]
  refine ⟨fun c hc => ⟨(hchar c hc).2.1, (hchar c hc).2.2.1⟩, ?_⟩
  rw [List.isChain_iff_forall_rel_of_append_cons_cons]
  intro c d before after hsplit
  have hc : c ∈ s.toList := by rw [hsplit]; simp
  -- of two neighbours one is no half of a mark: both halves would be minus signs
  by_cases hhalf : isHalfMark c = true
  · refine apart_of_right ?_ c
    have hd : d ≠ '-' := List.isChain_iff_forall_rel_of_append_cons_cons.mp h.apart hsplit
      ((hchar c hc).2.2.2.2 hhalf)
    have hdchar := hchar d (by rw [hsplit]; simp)
    exact Bool.eq_false_iff.mpr fun hdhalf => hd (hdchar.2.2.2.2 hdhalf)
  · exact apart_of_left (Bool.eq_false_iff.mpr hhalf) d

theorem toList_toString_nat (n : Nat) : (toString n).toList = Nat.toDigits 10 n := by
  rw [Nat.toString_eq_repr, Nat.toList_repr]

theorem sealed_toString_int (n : Int) : Sealed (toString n) := by
  apply sealed_of_numeral
  cases n with
  | ofNat n =>
    have htext : (toString (Int.ofNat n)).toList = Nat.toDigits 10 n := toList_toString_nat n
    rw [htext]
    exact (plain_toDigits n).numeral
  | negSucc n =>
    have htext : (toString (Int.negSucc n)).toList = '-' :: Nat.toDigits 10 (n + 1) := by
      rw [← toList_toString_nat]
      exact String.toList_append
    rw [htext]
    exact (plain_toDigits (n + 1)).unsigned.minus

section Doubles

open SqlComposer.Number

theorem plain_significant (k : Nat) : Plain (significant k) := by
  unfold significant
  dsimp only
  split
  · exact plain_cons (by decide) plain_nil
  · intro c hc
    have hdigits := (List.dropWhile_suffix _).subset (List.mem_reverse.mp hc)
    exact plain_toDigits k c (List.mem_reverse.mp hdigits)

theorem plain_zeros (n : Nat) : Plain (List.replicate n '0') := by
  intro c hc
  rw [List.eq_of_mem_replicate hc]
  decide

/-- The minus sign of an exponent stands alone between the letter and the digits. -/
theorem numeral_exponentText (l : Number.Layout) (e : Int) : Numeral (l.exponentText e) := by
  have hdigits : Plain (List.replicate (l.exponentDigits - (digits e.natAbs).length) '0'
      ++ digits e.natAbs) := (plain_zeros _).append (plain_toDigits _)
  refine Numeral.after (a := ['e']) (plain_cons (by decide) plain_nil) ?_
  split
  · exact hdigits.unsigned.minus
  · exact (plain_cons (by decide) hdigits).numeral

/-- A double is written with plain digits, whatever its layout is. -/
theorem unsigned_write (l : Number.Layout) {ds : List Char} (hds : Plain ds) (point : Int) :
    Unsigned (l.write ds point) := by
  have hdot : isSpecial '.' = false := by decide
  have hzero : isSpecial '0' = false := by decide
  unfold Number.Layout.write
  split
  · split
    · exact (plain_cons hzero (plain_cons hdot ((plain_zeros _).append hds))).unsigned
    · dsimp only
      split
      · exact ((hds.append (plain_zeros _)).append
          (plain_cons hdot (plain_cons hzero plain_nil))).unsigned
      · refine (Plain.append (fun c hc => hds c (List.mem_of_mem_take hc)) ?_).unsigned
        exact plain_cons hdot fun c hc => hds c (List.mem_of_mem_drop hc)
  · split
    · next d =>
      exact ⟨Numeral.after (a := [d]) hds (numeral_exponentText l _), hds.unsigned.head⟩
    · next d rest _ =>
      have hrest : Plain (d :: '.' :: rest) := plain_cons (hds d List.mem_cons_self)
        (plain_cons hdot fun c hc => hds c (List.mem_cons_of_mem d hc))
      exact ⟨Numeral.after (a := d :: '.' :: rest) hrest (numeral_exponentText l _),
        hds.unsigned.head⟩
    · exact hds.unsigned

/-- The text of a double is sealed, as an exponent is the only other place of a minus sign. -/
theorem sealed_floatText (x : Float) : Sealed (floatText x) := by
  unfold floatText Number.Layout.text
  split
  · split
    · decide
    · split
      · decide
      · decide
  · next b _ =>
    have hunsigned : Unsigned (if b.significand == 0 then Number.Layout.plain.write ['0'] 1
        else Number.Layout.plain.write (significant (shortest b).1)
          ((shortest b).2 + (digits (shortest b).1).length)) := by
      split
      · exact unsigned_write _ (plain_zeros 1) 1
      · exact unsigned_write _ (plain_significant _) _
    apply sealed_of_numeral
    rw [String.toList_ofList]
    dsimp only
    split
    · exact hunsigned.minus
    · exact hunsigned.toNumeral

end Doubles

end SqlComposer.Sql

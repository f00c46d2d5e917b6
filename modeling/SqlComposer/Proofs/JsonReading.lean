import SqlComposer.Proofs.JsonConstructors
import SqlComposer.Value.Json

/-!
# JSON that is read back

What `Value.json` writes for nested lists and dictionaries over null, booleans, whole numbers and
texts is visible ASCII on one line, and `Value.ofJson?` reads it back. In a text every character
outside visible ASCII becomes an escape, those beyond the first 65536 code points two, which are
read as one character again; and a quote or a backslash never stands on its own. So whatever a text
holds, it ends where it was ended. Whole numbers with too many digits are neither written nor read.

The reader is given fuel. For a value it needs no more than the value has characters, since each
comma and each bracket is one.
-/

set_option autoImplicit false

namespace SqlComposer

open SqlComposer.Text SqlComposer.Number

/-! ## Escapes -/

/-- The last of the hexadecimal digits of a padded number. -/
theorem hex_succ {width : Nat} (hwidth : 0 < width) (n : Nat) :
    hex (width + 1) n = hex width (n / 16) ++ [Nat.digitChar (n % 16)] := by
  unfold hex
  dsimp only
  by_cases hn : n < 16
  · obtain ⟨k, rfl⟩ : ∃ k, width = k + 1 := ⟨width - 1, by omega⟩
    have hzero : Nat.toDigits 16 0 = ['0'] := by decide
    rw [Nat.toDigits_of_lt_base hn, Nat.div_eq_of_lt hn, Nat.mod_eq_of_lt hn, hzero]
    simp [List.replicate_succ']
  · have hlast : n % 16 < 16 := Nat.mod_lt n (by decide)
    have hsplit : Nat.toDigits 16 n = Nat.toDigits 16 (n / 16) ++ [Nat.digitChar (n % 16)] := by
      rw [← Nat.toDigits_of_lt_base hlast,
        Nat.toDigits_append_toDigits (by decide) (by omega) hlast, Nat.div_add_mod]
    rw [hsplit, List.length_append, List.length_singleton, Nat.add_sub_add_right,
      List.append_assoc]

theorem hexValue?_digitChar : ∀ d < 16, hexValue? (Nat.digitChar d) = some d := by decide

/-- Four hexadecimal digits. -/
theorem hex_four {n : Nat} (hn : n < 0x10000) :
    hex 4 n = [Nat.digitChar (n / 4096), Nat.digitChar (n / 256 % 16),
      Nat.digitChar (n / 16 % 16), Nat.digitChar (n % 16)] := by
  have hone {d : Nat} (hd : d < 16) : hex 1 d = [Nat.digitChar d] := by
    rw [hex, Nat.toDigits_of_lt_base hd]
    rfl
  rw [hex_succ (by decide), hex_succ (by decide), hex_succ (by decide), hone (by omega)]
  simp [Nat.div_div_eq_div_mul]

/-- Four hexadecimal digits are read as the number they stand for. -/
theorem readUnit?_hex {n : Nat} (hn : n < 0x10000) (rest : List Char) :
    readUnit? (hex 4 n ++ rest) = some (n, rest) := by
  rw [hex_four hn]
  simp only [List.cons_append, List.nil_append, readUnit?]
  rw [hexValue?_digitChar _ (by omega), hexValue?_digitChar _ (by omega),
    hexValue?_digitChar _ (by omega), hexValue?_digitChar _ (by omega)]
  simp only [Option.bind_eq_bind, Option.bind_some, Option.some.injEq, Prod.mk.injEq, and_true]
  omega

/-- The ways a character is written in a text: with a letter behind a backslash, as it is, or as one
escape or two. -/
inductive JsonSpelling : Char → List Char → Prop
  | letter {c e : Char} (he : escaped? e = some c) (hletter : e ≠ 'u')
      (hseen : 32 ≤ e.toNat ∧ e.toNat < 127) : JsonSpelling c ['\\', e]
  | plain {c : Char} (hquote : c ≠ '"') (hslash : c ≠ '\\')
      (hseen : 32 ≤ c.toNat ∧ c.toNat < 127) : JsonSpelling c [c]
  | unit {n : Nat} (hn : n < 0x10000) (hplain : n < 0xD800 ∨ 0xE000 ≤ n) :
      JsonSpelling (Char.ofNat n) (jsonUnit n)
  | pair {n : Nat} (hn : n < 0x100000) : JsonSpelling (Char.ofNat (0x10000 + n))
      (jsonUnit (0xD800 + n / 1024) ++ jsonUnit (0xDC00 + n % 1024))

theorem jsonSpelling (c : Char) : JsonSpelling c (jsonChar c) := by
  have hvalid : c.toNat.isValidChar := c.valid
  unfold jsonChar
  split_ifs with hquote hslash hline hreturn htab hback hfeed hvisible hunit
  · rw [beq_iff_eq.mp hquote]; exact .letter rfl (by decide) (by decide)
  · rw [beq_iff_eq.mp hslash]; exact .letter rfl (by decide) (by decide)
  · rw [beq_iff_eq.mp hline]; exact .letter rfl (by decide) (by decide)
  · rw [beq_iff_eq.mp hreturn]; exact .letter rfl (by decide) (by decide)
  · rw [beq_iff_eq.mp htab]; exact .letter rfl (by decide) (by decide)
  · rw [beq_iff_eq.mp hback]; exact .letter rfl (by decide) (by decide)
  · rw [beq_iff_eq.mp hfeed]; exact .letter rfl (by decide) (by decide)
  · rw [Bool.and_eq_true, decide_eq_true_eq, decide_eq_true_eq] at hvisible
    exact .plain (mt beq_iff_eq.mpr hquote) (mt beq_iff_eq.mpr hslash) hvisible
  · have hplain : c.toNat < 0xD800 ∨ 0xE000 ≤ c.toNat := by rcases hvalid with h | h <;> omega
    have hspelled := JsonSpelling.unit hunit hplain
    rwa [Char.ofNat_toNat] at hspelled
  · have hbound : c.toNat < 0x110000 := by rcases hvalid with h | h <;> omega
    have hsum : 0x10000 + (c.toNat - 0x10000) = c.toNat := by omega
    have hspelled := JsonSpelling.pair (n := c.toNat - 0x10000) (by omega)
    rwa [hsum, Char.ofNat_toNat] at hspelled

theorem JsonSpelling.length_pos {c : Char} {cs : List Char} (h : JsonSpelling c cs) :
    0 < cs.length := by
  cases h <;> exact Nat.succ_pos _

theorem length_le_flatMap_jsonChar (cs : List Char) :
    cs.length ≤ (cs.flatMap jsonChar).length := by
  induction cs with
  | nil => exact Nat.le_refl 0
  | cons c cs ih =>
    have hchar := (jsonSpelling c).length_pos
    rw [List.flatMap_cons, List.length_append, List.length_cons]
    omega

/-! ## Texts -/

section Texts

variable {acc : List Char} {fuel : Nat} {rest : List Char}

theorem readJsonString?_unit {n : Nat} (hn : n < 0x10000) (hplain : n < 0xD800 ∨ 0xE000 ≤ n) :
    readJsonString? acc (fuel + 1) (jsonUnit n ++ rest)
      = readJsonString? (Char.ofNat n :: acc) fuel rest := by
  have hhigh : ¬ (0xD800 ≤ n && decide (n < 0xDC00)) = true := by simp; omega
  have hany : ¬ (0xD800 ≤ n && decide (n < 0xE000)) = true := by simp; omega
  simp only [jsonUnit, List.cons_append, readJsonString?, readUnit?_hex hn, Option.bind_eq_bind,
    Option.bind_some, if_neg hhigh, if_neg hany]

/-- Two escapes are read as one character beyond the first 65536. -/
theorem readJsonString?_pair {n : Nat} (hn : n < 0x100000) :
    readJsonString? acc (fuel + 1)
        (jsonUnit (0xD800 + n / 1024) ++ (jsonUnit (0xDC00 + n % 1024) ++ rest))
      = readJsonString? (Char.ofNat (0x10000 + n) :: acc) fuel rest := by
  have hhigh : (0xD800 ≤ 0xD800 + n / 1024 && decide (0xD800 + n / 1024 < 0xDC00)) = true := by
    simp; omega
  have hlow : (0xDC00 ≤ 0xDC00 + n % 1024 && decide (0xDC00 + n % 1024 < 0xE000)) = true := by
    simp; omega
  have hsum : 0x10000 + (0xD800 + n / 1024 - 0xD800) * 1024 + (0xDC00 + n % 1024 - 0xDC00)
      = 0x10000 + n := by omega
  simp only [jsonUnit, List.cons_append, readJsonString?,
    readUnit?_hex (n := 0xD800 + n / 1024) (by omega),
    readUnit?_hex (n := 0xDC00 + n % 1024) (by omega), Option.bind_eq_bind, Option.bind_some,
    if_pos hhigh, if_pos hlow, hsum]

/-- What a character is written as is read as that character, with one step. -/
theorem JsonSpelling.read {c : Char} {cs : List Char} (h : JsonSpelling c cs) :
    readJsonString? acc (fuel + 1) (cs ++ rest) = readJsonString? (c :: acc) fuel rest := by
  cases h with
  | letter he hletter _ => simp [readJsonString?, he]
  | plain hquote hslash hseen =>
    have hcontrol : ¬ c.toNat < 32 := by omega
    simp [readJsonString?, hslash, hcontrol]
  | unit hn hplain => exact readJsonString?_unit hn hplain
  | pair hn =>
    rw [List.append_assoc]
    exact readJsonString?_pair hn

/-- A text is read up to the quote at its end. -/
theorem readJsonString?_text (cs : List Char) (hfuel : cs.length < fuel) :
    readJsonString? acc fuel (cs.flatMap jsonChar ++ '"' :: rest)
      = some (String.ofList (acc.reverse ++ cs), rest) := by
  induction cs generalizing acc fuel with
  | nil =>
    obtain ⟨fuel, rfl⟩ : ∃ f, fuel = f + 1 := ⟨fuel - 1, by omega⟩
    simp [readJsonString?]
  | cons c cs ih =>
    obtain ⟨fuel, rfl⟩ : ∃ f, fuel = f + 1 := ⟨fuel - 1, by omega⟩
    rw [List.length_cons] at hfuel
    rw [List.flatMap_cons, List.append_assoc, (jsonSpelling c).read, ih (by omega)]
    simp

end Texts

/-! ## Numbers -/

/-- What follows a value: nothing, a comma or a closing bracket. -/
def Closes (rest : List Char) : Prop := ∀ c ∈ rest.head?, c = ',' ∨ c = ']' ∨ c = '\x7d'

/-- The decimal digits of a number are at least one, and the first of several is not a zero. -/
theorem exists_toDigits (n : Nat) : ∃ d ds, Nat.toDigits 10 n = d :: ds
    ∧ (∀ c ∈ d :: ds, isAsciiDigit c = true) ∧ (0 < n → d ≠ '0') := by
  induction n using Nat.strongRecOn with
  | ind n ih =>
    by_cases hsmall : n < 10
    · have hdigit : ∀ d < 10, isAsciiDigit (Nat.digitChar d) = true
          ∧ (0 < d → Nat.digitChar d ≠ '0') := by decide
      exact ⟨_, [], Nat.toDigits_of_lt_base hsmall,
        fun c hc => List.mem_singleton.mp hc ▸ (hdigit n hsmall).1, (hdigit n hsmall).2⟩
    · obtain ⟨d, ds, hfront, -, hd⟩ := ih (n / 10) (by omega)
      have hlast : n % 10 < 10 := Nat.mod_lt n (by decide)
      have hall : Nat.toDigits 10 n = d :: (ds ++ Nat.toDigits 10 (n % 10)) := by
        rw [← List.cons_append, ← hfront,
          Nat.toDigits_append_toDigits (by decide) (by omega) hlast, Nat.div_add_mod]
      exact ⟨d, _, hall, fun c hc => Sql.isDigit_of_mem_toDigits (hall ▸ hc),
        fun _ => hd (by omega)⟩

section Numbers

variable {rest : List Char}

/-- What closes a value does not go on with a number. -/
theorem isAsciiDigit_of_closes (hrest : Closes rest) :
    ∀ c ∈ rest.head?, isAsciiDigit c = false := by
  intro c hc
  rcases hrest c hc with rfl | rfl | rfl <;> decide

theorem spanDigits_of_closes {ds : List Char} (hds : ∀ c ∈ ds, isAsciiDigit c = true)
    (hrest : Closes rest) : spanDigits (ds ++ rest) = (ds, rest) := by
  rw [spanDigits, takeWhile_of_boundary hds (isAsciiDigit_of_closes hrest),
    dropWhile_of_boundary hds (isAsciiDigit_of_closes hrest)]

theorem readJsonNumber?_zero (hrest : Closes rest) :
    readJsonNumber? ('0' :: rest) = some (.int 0, rest)
      ∧ readJsonNumber? ('-' :: '0' :: rest) = some (.int 0, rest) := by
  rcases rest with _ | ⟨c, rest⟩
  · exact ⟨rfl, rfl⟩
  · rcases hrest c rfl with rfl | rfl | rfl <;> exact ⟨rfl, rfl⟩

/-- The digits of a number, if there are few enough, are read as that number, also behind a minus
sign. -/
theorem readJsonNumber?_toDigits {n : Nat} (hfew : (Nat.toDigits 10 n).length ≤ mostDigits)
    (hrest : Closes rest) :
    readJsonNumber? (Nat.toDigits 10 n ++ rest) = some (.int n, rest)
      ∧ readJsonNumber? ('-' :: (Nat.toDigits 10 n ++ rest)) = some (.int (-n), rest) := by
  rcases Nat.eq_zero_or_pos n with rfl | hn
  · exact readJsonNumber?_zero hrest
  · obtain ⟨d, ds, hcs, hdigits, hfirst⟩ := exists_toDigits n
    have hvalue : ofDigits (d :: ds) = n := hcs ▸ Sql.ofDigits_toDigits n
    have hspan : spanDigits (d :: (ds ++ rest)) = (d :: ds, rest) :=
      spanDigits_of_closes hdigits hrest
    have hzero : d ≠ '0' := hfirst hn
    have hminus : d ≠ '-' := by
      rintro rfl
      exact absurd (hdigits _ List.mem_cons_self) (by decide)
    have hshort : ¬ mostDigits < (d :: ds).length := Nat.not_lt.mpr (hcs ▸ hfew)
    rw [hcs, List.cons_append]
    rcases rest with _ | ⟨c, rest⟩
    · rw [List.append_nil] at hspan
      simp [-List.length_cons, readJsonNumber?, hminus, hzero, hspan, hvalue, hshort]
    · have hstops : c ≠ '.' ∧ c ≠ 'e' ∧ c ≠ 'E' := by
        rcases hrest c rfl with rfl | rfl | rfl <;> decide
      simp [-List.length_cons, readJsonNumber?, hminus, hzero, hspan, hvalue, hshort, hstops]

/-- A text that begins with a digit, or with a minus sign and a digit. -/
inductive BeginsNumber : List Char → Prop
  | digit {d : Char} {cs : List Char} (hd : isAsciiDigit d = true) : BeginsNumber (d :: cs)
  | minus {d : Char} {cs : List Char} (hd : isAsciiDigit d = true) : BeginsNumber ('-' :: d :: cs)

theorem BeginsNumber.exists_cons {cs : List Char} (h : BeginsNumber cs) :
    ∃ c rest, cs = c :: rest ∧ ∀ a, isAsciiDigit a = false → a ≠ '-' → c ≠ a := by
  cases h with
  | digit hd =>
    refine ⟨_, _, rfl, ?_⟩
    rintro a ha - rfl
    rw [ha] at hd
    cases hd
  | minus _ => exact ⟨_, _, rfl, fun a _ hminus => Ne.symm hminus⟩

theorem toList_toString_negSucc (n : Nat) :
    (toString (Int.negSucc n)).toList = '-' :: Nat.toDigits 10 (n + 1) := by
  rw [← Sql.toList_toString_nat]
  exact String.toList_append

theorem beginsNumber_toString (n : Int) (rest : List Char) :
    BeginsNumber ((toString n).toList ++ rest) := by
  cases n with
  | ofNat n =>
    obtain ⟨d, ds, hcs, hdigits, -⟩ := exists_toDigits n
    have htext : (toString (Int.ofNat n)).toList = d :: ds := (Sql.toList_toString_nat n).trans hcs
    rw [htext]
    exact .digit (hdigits d List.mem_cons_self)
  | negSucc n =>
    obtain ⟨d, ds, hcs, hdigits, -⟩ := exists_toDigits (n + 1)
    rw [toList_toString_negSucc, hcs]
    exact .minus (hdigits d List.mem_cons_self)

theorem readJsonNumber?_toString {n : Int} (hfew : fewDigits n = true) (hrest : Closes rest) :
    readJsonNumber? ((toString n).toList ++ rest) = some (.int n, rest) := by
  have hlength : (Nat.toDigits 10 n.natAbs).length ≤ mostDigits := of_decide_eq_true hfew
  cases n with
  | ofNat n =>
    have htext : (toString (Int.ofNat n)).toList = Nat.toDigits 10 n := Sql.toList_toString_nat n
    rw [htext]
    exact (readJsonNumber?_toDigits hlength hrest).1
  | negSucc n =>
    rw [toList_toString_negSucc]
    exact (readJsonNumber?_toDigits hlength hrest).2

end Numbers

/-! ## Values -/

theorem afterWord?_cons {word : String} {a c : Char} {as cs : List Char}
    (hword : word.toList = a :: as) (hc : c ≠ a) : afterWord? word (c :: cs) = none := by
  rw [afterWord?, hword, List.isPrefixOf_cons_cons, beq_eq_false_iff_ne.mpr hc.symm, Bool.false_and]
  rfl

theorem afterWord?_minus_of_beginsNumber {cs : List Char} (h : BeginsNumber cs) :
    afterWord? "-Infinity" cs = none := by
  have hword : "-Infinity".toList = '-' :: 'I' :: "nfinity".toList := rfl
  have hne (d a : Char) (hd : isAsciiDigit d = true) (ha : isAsciiDigit a = false) : a ≠ d := by
    rintro rfl
    rw [ha] at hd
    cases hd
  cases h with
  | digit hd => exact afterWord?_cons hword (hne _ '-' hd rfl).symm
  | minus hd =>
    rw [afterWord?, hword, List.isPrefixOf_cons_cons, List.isPrefixOf_cons_cons,
      beq_eq_false_iff_ne.mpr (hne _ 'I' hd rfl)]
    rfl

/-- What begins as a whole number is read as a number. -/
theorem readJsonValue?_number {fuel : Nat} {cs : List Char} (h : BeginsNumber cs) :
    readJsonValue? (fuel + 1) cs = readJsonNumber? cs := by
  have hdown := afterWord?_minus_of_beginsNumber h
  obtain ⟨c, cs, rfl, hne⟩ := h.exists_cons
  have hnone (word : String) (a : Char) (as : List Char) (hword : word.toList = a :: as)
      (ha : isAsciiDigit a = false) (hminus : a ≠ '-') : afterWord? word (c :: cs) = none :=
    afterWord?_cons hword (hne a ha hminus)
  rw [readJsonValue?, hdown, hnone "null" 'n' _ rfl rfl (by decide),
    hnone "true" 't' _ rfl rfl (by decide), hnone "false" 'f' _ rfl rfl (by decide),
    hnone "NaN" 'N' _ rfl rfl (by decide), hnone "Infinity" 'I' _ rfl rfl (by decide)]
  · rintro rest ⟨⟩
    exact hne '"' rfl (by decide) rfl
  · rintro rest ⟨⟩
    exact hne '[' rfl (by decide) rfl
  · rintro rest ⟨⟩
    exact hne '\x7b' rfl (by decide) rfl

namespace Value

/-- The values that JSON has a form for, apart from fractions. -/
inductive JsonLike : Value → Prop
  | null : JsonLike .null
  | bool (b : Bool) : JsonLike (.bool b)
  | int (n : Int) : JsonLike (.int n)
  | text (s : String) : JsonLike (.text s)
  | list {items : List Value} (h : ∀ v ∈ items, JsonLike v) : JsonLike (.list items)
  | dict {entries : List (String × Value)} (hkeys : (entries.map (·.1)).Nodup)
      (h : ∀ e ∈ entries, JsonLike e.2) : JsonLike (.dict entries)

/-! ### What values are written as -/

/-- The texts of a sequence with a comma and a space between them. -/
abbrev joined (texts : List String) : List Char := (", ".intercalate texts).toList

theorem joined_cons_cons (t u : String) (texts : List String) :
    joined (t :: u :: texts) = t.toList ++ ',' :: ' ' :: joined (u :: texts) := by
  simp

theorem toList_jsonString (s : String) :
    (jsonString s).toList = '"' :: (s.toList.flatMap jsonChar ++ ['"']) := String.toList_ofList

theorem toList_toJson_list (items : List Value) :
    (list items).toJson.toList = '[' :: (joined (jsonItems items) ++ [']']) := by
  rw [toJson, String.toList_append, String.toList_append]
  rfl

theorem toList_toJson_dict (entries : List (String × Value)) :
    (dict entries).toJson.toList = '\x7b' :: (joined (jsonEntries entries) ++ ['\x7d']) := by
  rw [toJson, String.toList_append, String.toList_append]
  rfl

/-- What a value is written as begins neither with a blank nor with a closing bracket. -/
theorem JsonLike.exists_toJson {v : Value} (h : v.JsonLike) : ∃ c cs, v.toJson.toList = c :: cs
    ∧ isJsonBlank c = false ∧ c ≠ ']' := by
  cases h with
  | null => exact ⟨_, _, rfl, rfl, by decide⟩
  | bool b => cases b <;> exact ⟨_, _, rfl, rfl, by decide⟩
  | int n =>
    have hbegins := beginsNumber_toString n []
    rw [List.append_nil] at hbegins
    obtain ⟨c, cs, hcs, hne⟩ := hbegins.exists_cons
    have hblank : isJsonBlank c = false := by
      simp [isJsonBlank, hne ' ' rfl, hne '\t' rfl, hne '\n' rfl, hne '\r' rfl]
    exact ⟨c, cs, hcs, hblank, hne ']' rfl (by decide)⟩
  | text s => exact ⟨_, _, toList_jsonString s, rfl, by decide⟩
  | list _ => exact ⟨_, _, toList_toJson_list _, rfl, by decide⟩
  | dict _ _ => exact ⟨_, _, toList_toJson_dict _, rfl, by decide⟩

theorem JsonLike.exists_fuel {v : Value} (h : v.JsonLike) {fuel : Nat}
    (hfuel : v.toJson.length ≤ fuel) : ∃ k, fuel = k + 1 := by
  obtain ⟨c, cs, hcs, -⟩ := h.exists_toJson
  rw [← String.length_toList, hcs, List.length_cons] at hfuel
  exact Nat.exists_eq_add_one.mpr (by omega)

theorem dropBlanks_cons {c : Char} (hblank : isJsonBlank c = false) (cs : List Char) :
    (c :: cs).dropWhile isJsonBlank = c :: cs :=
  List.dropWhile_cons_of_neg (by simp [hblank])

/-- The space between two values is left out. -/
theorem dropBlanks_space {c : Char} (hblank : isJsonBlank c = false) (cs : List Char) :
    (' ' :: c :: cs).dropWhile isJsonBlank = c :: cs := by
  rw [List.dropWhile_cons_of_pos rfl, dropBlanks_cons hblank]

theorem exists_joined_jsonItems (v : Value) (vs : List Value) (h : v.JsonLike) :
    ∃ c cs, joined (jsonItems (v :: vs)) = c :: cs ∧ isJsonBlank c = false ∧ c ≠ ']' := by
  obtain ⟨c, cs, hcs, hc⟩ := h.exists_toJson
  cases vs with
  | nil => exact ⟨c, cs, by simpa [joined, jsonItems] using hcs, hc⟩
  | cons w ws =>
    refine ⟨c, cs ++ ',' :: ' ' :: joined (jsonItems (w :: ws)), ?_, hc⟩
    rw [← List.cons_append, ← hcs]
    exact joined_cons_cons _ _ _

/-- The value is read from what it is written as, whatever comes after it that closes it. -/
def Reads (v : Value) : Prop :=
  ∀ fuel rest, v.toJson.length ≤ fuel → Closes rest →
    readJsonValue? fuel (v.toJson.toList ++ rest) = some (v, rest)

theorem reads_text (s : String) : (text s).Reads := by
  intro fuel rest hfuel _
  have hlength : (jsonString s).length = (s.toList.flatMap jsonChar).length + 2 := by
    rw [← String.length_toList, toList_jsonString]
    simp
  have hfuel : (jsonString s).length ≤ fuel := hfuel
  have hchars := length_le_flatMap_jsonChar s.toList
  obtain ⟨fuel, rfl⟩ : ∃ f, fuel = f + 1 := ⟨fuel - 1, by omega⟩
  change readJsonValue? _ ((jsonString s).toList ++ rest) = _
  rw [toList_jsonString, List.cons_append, List.append_assoc]
  simp only [readJsonValue?, List.singleton_append]
  rw [readJsonString?_text _ (by omega)]
  simp

theorem reads_int {n : Int} (hfew : fewDigits n = true) : (int n).Reads := by
  intro fuel rest hfuel hrest
  obtain ⟨fuel, rfl⟩ := (JsonLike.int n).exists_fuel hfuel
  exact (readJsonValue?_number (beginsNumber_toString n rest)).trans
    (readJsonNumber?_toString hfew hrest)

/-- Items with commas between them are read one after another. -/
theorem readJsonItems?_joined {v : Value} {vs : List Value}
    (h : ∀ x ∈ v :: vs, x.JsonLike ∧ x.Reads) (acc : List Value) (fuel : Nat) (rest : List Char)
    (hfuel : (joined (jsonItems (v :: vs))).length < fuel) :
    readJsonItems? acc fuel (joined (jsonItems (v :: vs)) ++ ']' :: rest)
      = some (acc.reverse ++ v :: vs, rest) := by
  induction vs generalizing v acc fuel with
  | nil =>
    obtain ⟨fuel, rfl⟩ : ∃ f, fuel = f + 1 := ⟨fuel - 1, by omega⟩
    have htext : joined (jsonItems [v]) = v.toJson.toList := by
      simp [joined, jsonItems]
    rw [htext, String.length_toList] at hfuel
    have hv := (h v List.mem_cons_self).2 fuel (']' :: rest) (by omega)
      (by rintro _ ⟨⟩; exact .inr (.inl rfl))
    rw [htext, readJsonItems?, hv, Option.bind_eq_bind, Option.bind_some]
    simp only [dropBlanks_cons (c := ']') rfl, List.reverse_cons]
  | cons w ws ih =>
    obtain ⟨fuel, rfl⟩ : ∃ f, fuel = f + 1 := ⟨fuel - 1, by omega⟩
    have htext : joined (jsonItems (v :: w :: ws))
        = v.toJson.toList ++ ',' :: ' ' :: joined (jsonItems (w :: ws)) := joined_cons_cons _ _ _
    obtain ⟨c, cs, hcs, hblank, -⟩ := exists_joined_jsonItems w ws (h w (by simp)).1
    rw [htext, List.length_append, String.length_toList] at hfuel
    simp only [List.length_cons] at hfuel
    have hv := (h v List.mem_cons_self).2 fuel
      (',' :: ' ' :: (joined (jsonItems (w :: ws)) ++ ']' :: rest)) (by omega)
      (by rintro _ ⟨⟩; exact .inl rfl)
    have hnext := ih (fun x hx => h x (List.mem_cons_of_mem v hx)) (v :: acc) fuel (by omega)
    rw [hcs, List.cons_append] at hnext hv
    rw [htext, hcs, List.append_assoc, List.cons_append, List.cons_append, List.cons_append,
      readJsonItems?, hv, Option.bind_eq_bind, Option.bind_some]
    change readJsonItems? (v :: acc) fuel ((' ' :: c :: (cs ++ ']' :: rest)).dropWhile _) = _
    rw [dropBlanks_space hblank, hnext, List.reverse_cons, List.append_assoc]
    rfl

theorem reads_list {items : List Value} (h : ∀ v ∈ items, v.JsonLike ∧ v.Reads) :
    (list items).Reads := by
  intro fuel rest hfuel _
  rw [← String.length_toList, toList_toJson_list, List.length_cons, List.length_append] at hfuel
  obtain ⟨fuel, rfl⟩ : ∃ f, fuel = f + 1 := ⟨fuel - 1, by omega⟩
  rw [toList_toJson_list, List.cons_append, List.append_assoc, List.singleton_append]
  cases items with
  | nil => rfl
  | cons v vs =>
    have hread := readJsonItems?_joined h [] fuel rest
      (by rw [List.length_singleton] at hfuel; omega)
    obtain ⟨c, cs, hcs, hblank, hclose⟩ :=
      exists_joined_jsonItems v vs (h v List.mem_cons_self).1
    rw [hcs, List.cons_append] at hread ⊢
    simp only [readJsonValue?, dropBlanks_cons hblank]
    split
    · next heq =>
      cases heq
      exact absurd rfl hclose
    · rw [hread]
      rfl

/-- What one entry of a dictionary is written as. -/
def entryText (e : String × Value) : List Char :=
  '"' :: (e.1.toList.flatMap jsonChar ++ '"' :: ':' :: ' ' :: e.2.toJson.toList)

theorem toList_entry (key : String) (v : Value) :
    (jsonString key ++ ": " ++ v.toJson).toList = entryText (key, v) := by
  rw [String.toList_append, String.toList_append, toList_jsonString]
  simp [entryText]

theorem joined_jsonEntries_singleton (e : String × Value) :
    joined (jsonEntries [e]) = entryText e := by
  rw [← toList_entry]
  simp [joined, jsonEntries]

theorem joined_jsonEntries_cons_cons (e next : String × Value) (es : List (String × Value)) :
    joined (jsonEntries (e :: next :: es))
      = entryText e ++ ',' :: ' ' :: joined (jsonEntries (next :: es)) := by
  rw [← toList_entry]
  exact joined_cons_cons _ _ _

theorem exists_joined_jsonEntries (e : String × Value) (es : List (String × Value)) :
    ∃ cs, joined (jsonEntries (e :: es)) = '"' :: cs := by
  cases es with
  | nil => exact ⟨_, joined_jsonEntries_singleton e⟩
  | cons next es => exact ⟨_, joined_jsonEntries_cons_cons e next es⟩

/-- An entry is read, and then the next one or the end. -/
theorem readJsonEntries?_entry {e : String × Value} (he : e.2.JsonLike ∧ e.2.Reads)
    (acc : List (String × Value)) {fuel : Nat} (rest : List Char)
    (hfuel : (entryText e).length ≤ fuel) :
    readJsonEntries? acc (fuel + 1) (entryText e ++ ',' :: ' ' :: '"' :: rest)
        = readJsonEntries? (e :: acc) fuel ('"' :: rest)
      ∧ readJsonEntries? acc (fuel + 1) (entryText e ++ '\x7d' :: rest)
        = some ((e :: acc).reverse, rest) := by
  obtain ⟨key, v⟩ := e
  have hkey := length_le_flatMap_jsonChar key.toList
  simp only [entryText, List.length_cons, List.length_append, String.length_toList] at hfuel hkey
  have hv : v.Reads := he.2
  obtain ⟨c, cs, hcs, hblank, -⟩ := JsonLike.exists_toJson (v := v) he.1
  have hstring (tail : List Char) : readJsonString? [] (fuel + 1)
      (key.toList.flatMap jsonChar ++ '"' :: tail) = some (key, tail) := by
    rw [readJsonString?_text _ (by rw [String.length_toList]; omega)]
    simp
  have hread (tail : List Char) (htail : Closes tail) :
      readJsonValue? fuel (c :: (cs ++ tail)) = some (v, tail) := by
    have h := hv fuel tail (by omega) htail
    rwa [hcs] at h
  have hentry (tail : List Char) : entryText (key, v) ++ tail = '"'
      :: (key.toList.flatMap jsonChar ++ '"' :: ':' :: ' ' :: c :: (cs ++ tail)) := by
    rw [entryText, hcs, List.cons_append, List.append_assoc, List.cons_append, List.cons_append,
      List.cons_append, List.cons_append]
  constructor
  · rw [hentry, readJsonEntries?, hstring]
    change (readJsonValue? fuel ((' ' :: c :: (cs ++ _)).dropWhile isJsonBlank)).bind _ = _
    rw [dropBlanks_space hblank, hread _ (by rintro _ ⟨⟩; exact .inl rfl)]
    rfl
  · rw [hentry, readJsonEntries?, hstring]
    change (readJsonValue? fuel ((' ' :: c :: (cs ++ _)).dropWhile isJsonBlank)).bind _ = _
    rw [dropBlanks_space hblank, hread _ (by rintro _ ⟨⟩; exact .inr (.inr rfl))]
    rfl

/-- Entries with commas between them are read one after another. -/
theorem readJsonEntries?_joined {e : String × Value} {es : List (String × Value)}
    (h : ∀ x ∈ e :: es, x.2.JsonLike ∧ x.2.Reads) (acc : List (String × Value)) (fuel : Nat)
    (rest : List Char) (hfuel : (joined (jsonEntries (e :: es))).length < fuel) :
    readJsonEntries? acc fuel (joined (jsonEntries (e :: es)) ++ '\x7d' :: rest)
      = some (acc.reverse ++ e :: es, rest) := by
  induction es generalizing e acc fuel with
  | nil =>
    obtain ⟨fuel, rfl⟩ : ∃ f, fuel = f + 1 := ⟨fuel - 1, by omega⟩
    rw [joined_jsonEntries_singleton] at hfuel ⊢
    rw [(readJsonEntries?_entry (h e List.mem_cons_self) acc rest (by omega)).2,
      List.reverse_cons]
  | cons next es ih =>
    obtain ⟨fuel, rfl⟩ : ∃ f, fuel = f + 1 := ⟨fuel - 1, by omega⟩
    rw [joined_jsonEntries_cons_cons] at hfuel ⊢
    rw [List.length_append, List.length_cons, List.length_cons] at hfuel
    have hentry : (entryText e).length ≤ fuel := by omega
    have hnext := ih (fun x hx => h x (List.mem_cons_of_mem e hx)) (e :: acc) fuel (by omega)
    obtain ⟨cs, hcs⟩ := exists_joined_jsonEntries next es
    rw [hcs, List.cons_append] at hnext
    rw [hcs, List.append_assoc, List.cons_append, List.cons_append, List.cons_append,
      (readJsonEntries?_entry (h e List.mem_cons_self) acc _ hentry).1, hnext,
      List.reverse_cons, List.append_assoc, List.singleton_append]

theorem reads_dict {entries : List (String × Value)} (hkeys : (entries.map (·.1)).Nodup)
    (h : ∀ e ∈ entries, e.2.JsonLike ∧ e.2.Reads) : (dict entries).Reads := by
  intro fuel rest hfuel _
  rw [← String.length_toList, toList_toJson_dict, List.length_cons, List.length_append] at hfuel
  obtain ⟨fuel, rfl⟩ : ∃ f, fuel = f + 1 := ⟨fuel - 1, by omega⟩
  rw [toList_toJson_dict, List.cons_append, List.append_assoc, List.singleton_append]
  cases entries with
  | nil => rfl
  | cons e es =>
    have hread := readJsonEntries?_joined h [] fuel rest
      (by rw [List.length_singleton] at hfuel; omega)
    have hput : putAll [] (e :: es) = e :: es := putAll_of_nodup hkeys
    obtain ⟨cs, hcs⟩ := exists_joined_jsonEntries e es
    rw [hcs, List.cons_append] at hread ⊢
    change ((readJsonEntries? [] fuel ('"' :: (cs ++ '\x7d' :: rest))).map fun r =>
      (dict (putAll [] r.1), r.2)) = _
    rw [hread, Option.map_some, List.reverse_nil, List.nil_append, hput]

/-- Every value that JSON has a form for is read back if it can be written, whatever comes after
it. -/
theorem JsonLike.reads {v : Value} (h : v.JsonLike) (hwritable : v.isWritable = true) :
    v.Reads := by
  induction h with
  | null =>
    intro fuel rest hfuel _
    obtain ⟨fuel, rfl⟩ := JsonLike.null.exists_fuel hfuel
    rfl
  | bool b =>
    intro fuel rest hfuel _
    obtain ⟨fuel, rfl⟩ := (JsonLike.bool b).exists_fuel hfuel
    cases b <;> rfl
  | int n => exact reads_int hwritable
  | text s => exact reads_text s
  | list h ih =>
    rw [isWritable_list] at hwritable
    exact reads_list fun v hv => ⟨h v hv, ih v hv (hwritable v hv)⟩
  | dict hkeys h ih =>
    rw [isWritable_dict] at hwritable
    exact reads_dict hkeys fun e he => ⟨h e he, ih e he (hwritable e he)⟩

/-- Every value that JSON has a form for is read back from what is written of it. -/
theorem JsonLike.ofJson?_json {v : Value} (h : v.JsonLike) {line : String}
    (hline : v.json = .ok line) : ofJson? line = some v := by
  obtain ⟨hwritable, rfl⟩ := written_eq_ok_iff.mp hline
  obtain ⟨c, cs, hcs, hblank, -⟩ := h.exists_toJson
  have hdrop : v.toJson.toList.dropWhile isJsonBlank = v.toJson.toList := by
    rw [hcs, dropBlanks_cons hblank]
  have hread := h.reads hwritable (v.toJson.toList.length + 1) []
    (by rw [String.length_toList]; omega) (by rintro _ ⟨⟩)
  rw [List.append_nil] at hread
  unfold ofJson?
  simp only [hdrop, hread]
  rfl

/-! ### What is seen of it -/

/-- Only visible ASCII characters and spaces. -/
def Visible (cs : List Char) : Prop := ∀ c ∈ cs, 32 ≤ c.toNat ∧ c.toNat < 127

instance (cs : List Char) : Decidable (Visible cs) :=
  List.decidableBAll (fun c : Char => 32 ≤ c.toNat ∧ c.toNat < 127) cs

theorem Visible.append {as bs : List Char} (has : Visible as) (hbs : Visible bs) :
    Visible (as ++ bs) := fun c hc => (List.mem_append.mp hc).elim (has c) (hbs c)

theorem visible_jsonUnit {n : Nat} (hn : n < 0x10000) : Visible (jsonUnit n) := by
  have hdigit : ∀ d < 16, 32 ≤ (Nat.digitChar d).toNat ∧ (Nat.digitChar d).toNat < 127 := by
    decide
  intro c hc
  rw [jsonUnit, hex_four hn] at hc
  simp only [List.mem_cons, List.not_mem_nil, or_false] at hc
  rcases hc with rfl | rfl | rfl | rfl | rfl | rfl
  · decide
  · decide
  all_goals exact hdigit _ (by omega)

theorem visible_of_jsonSpelling {c : Char} {cs : List Char} (h : JsonSpelling c cs) :
    Visible cs := by
  cases h with
  | letter _ _ hseen => exact List.forall_mem_cons.mpr ⟨by decide, by simpa using hseen⟩
  | plain _ _ hseen => exact fun d hd => List.mem_singleton.mp hd ▸ hseen
  | unit hn _ => exact visible_jsonUnit hn
  | pair hn => exact (visible_jsonUnit (by omega)).append (visible_jsonUnit (by omega))

theorem visible_jsonString (s : String) : Visible (jsonString s).toList := by
  rw [toList_jsonString]
  intro c hc
  simp only [List.mem_cons, List.mem_append, List.mem_flatMap, List.not_mem_nil, or_false] at hc
  rcases hc with rfl | ⟨d, -, hd⟩ | rfl
  · decide
  · exact visible_of_jsonSpelling (jsonSpelling d) c hd
  · decide

theorem visible_toString_int (n : Int) : Visible (toString n).toList := by
  have hdigits (n : Nat) : Visible (Nat.toDigits 10 n) := by
    intro c hc
    have hbounds : '0' ≤ c ∧ c ≤ '9' := by
      simpa [isAsciiDigit] using Sql.isDigit_of_mem_toDigits hc
    have hlow : 48 ≤ c.toNat := UInt32.le_iff_toNat_le.mp hbounds.1
    have hhigh : c.toNat ≤ 57 := UInt32.le_iff_toNat_le.mp hbounds.2
    omega
  cases n with
  | ofNat n =>
    have htext : (toString (Int.ofNat n)).toList = Nat.toDigits 10 n := Sql.toList_toString_nat n
    rw [htext]
    exact hdigits n
  | negSucc n =>
    rw [toList_toString_negSucc, ← List.singleton_append]
    exact (by decide : Visible ['-']).append (hdigits (n + 1))

theorem visible_joined {texts : List String} (h : ∀ t ∈ texts, Visible t.toList) :
    Visible (joined texts) := by
  induction texts with
  | nil => rintro _ ⟨⟩
  | cons t texts ih =>
    have ht := h t List.mem_cons_self
    cases texts with
    | nil => simpa [joined] using ht
    | cons u texts =>
      rw [joined_cons_cons]
      exact ht.append ((by decide : Visible [',', ' ']).append
        (ih fun x hx => h x (List.mem_cons_of_mem t hx)))

theorem mem_jsonItems {items : List Value} {t : String} (h : t ∈ jsonItems items) :
    ∃ v ∈ items, t = v.toJson := by
  induction items with
  | nil => cases h
  | cons v vs ih =>
    rcases List.mem_cons.mp h with rfl | h
    · exact ⟨v, List.mem_cons_self, rfl⟩
    · obtain ⟨w, hw, rfl⟩ := ih h
      exact ⟨w, List.mem_cons_of_mem v hw, rfl⟩

theorem mem_jsonEntries {entries : List (String × Value)} {t : String}
    (h : t ∈ jsonEntries entries) : ∃ e ∈ entries, t.toList = entryText e := by
  induction entries with
  | nil => cases h
  | cons e es ih =>
    rcases List.mem_cons.mp h with rfl | h
    · exact ⟨e, List.mem_cons_self, toList_entry e.1 e.2⟩
    · obtain ⟨d, hd, hdt⟩ := ih h
      exact ⟨d, List.mem_cons_of_mem e hd, hdt⟩

/-- The text of a value can be seen: it is on one line, in ASCII. -/
theorem JsonLike.visible {v : Value} (h : v.JsonLike) : Visible v.toJson.toList := by
  induction h with
  | null => decide
  | bool b => cases b <;> decide
  | int n => exact visible_toString_int n
  | text s => exact visible_jsonString s
  | list _ ih =>
    rw [toList_toJson_list, ← List.singleton_append]
    refine (by decide : Visible ['[']).append (Visible.append (visible_joined ?_) (by decide))
    intro t ht
    obtain ⟨v, hv, rfl⟩ := mem_jsonItems ht
    exact ih v hv
  | dict _ _ ih =>
    rw [toList_toJson_dict, ← List.singleton_append]
    refine (by decide : Visible ['\x7b']).append (Visible.append (visible_joined ?_) (by decide))
    intro t ht
    obtain ⟨e, he, htext⟩ := mem_jsonEntries ht
    have hentry : entryText e = (jsonString e.1).toList ++ ([':', ' '] ++ e.2.toJson.toList) := by
      simp [entryText, toList_jsonString]
    rw [htext, hentry]
    exact (visible_jsonString e.1).append ((by decide : Visible [':', ' ']).append (ih e he))

theorem JsonLike.visible_json {v : Value} (h : v.JsonLike) {line : String}
    (hline : v.json = .ok line) : Visible line.toList := by
  obtain ⟨-, rfl⟩ := written_eq_ok_iff.mp hline
  exact h.visible

end Value

end SqlComposer

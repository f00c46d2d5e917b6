import Mathlib.Algebra.GroupWithZero.Nat
import SqlComposer.Proofs.Markers
import SqlComposer.Proofs.QuoteState

/-!
# Naming a statement text by text

A statement is composed of texts, and its placeholders are named when it is whole. Here it is named
text by text instead, each numbered on from the placeholders before it. At a seam the scan has to be
outside quotes, and a colon at the end of one text must not meet a word character at the start of the
next, which would make it read like the start of a name. Both hold around a text that `Separates`:
one that is written as it is and begins with neither a word character nor a colon.
-/

set_option autoImplicit false

namespace SqlComposer.Sql

/-- A text as it stands in the named statement after `first` placeholders. -/
def namedText (first : Nat) (sql : String) : String :=
  String.ofList (namedFrom .outside first sql.toList)

/-- Texts as they stand in the named statement one after the other. -/
def namedTexts : (first : Nat) → List String → List String
  | _, [] => []
  | first, t :: ts => namedText first t :: namedTexts (first + countPlaceholders t) ts

/-- A text that is named and scanned the same wherever it stands: it is inert and has no colon. -/
structure Steady (sql : String) : Prop where
  inert : Inert sql
  colonless : ':' ∉ sql.toList

/-- A text that can stand between any closed texts. -/
structure Separates (sql : String) : Prop extends Steady sql where
  nonempty : sql.toList ≠ []
  begins : startsName sql.toList.head? = false

instance (sql : String) : Decidable (Steady sql) :=
  decidable_of_iff (Inert sql ∧ ':' ∉ sql.toList) ⟨fun h => ⟨h.1, h.2⟩, fun h => ⟨h.1, h.2⟩⟩

instance (sql : String) : Decidable (Separates sql) :=
  decidable_of_iff (Steady sql ∧ sql.toList ≠ [] ∧ startsName sql.toList.head? = false)
    ⟨fun h => ⟨h.1, h.2.1, h.2.2⟩, fun h => ⟨h.1, h.2, h.3⟩⟩

/-! ## One text after another -/

/-- A character is kept alike before two texts if it is no colon, or neither text reads on. -/
theorem keptChar_congr {r : Region} {c : Char} {next next' : Option Char}
    (h : c = ':' → startsName next = startsName next') : keptChar r c next = keptChar r c next' := by
  cases r with
  | escaped q => rfl
  | _ =>
    by_cases hc : c = ':'
    · simp only [keptChar, h hc]
    · simp [keptChar, hc]

theorem namedFrom_append {r : Region} {index : Nat} {as bs : List Char}
    (h : as.getLast? = some ':' → startsName bs.head? = false) :
    namedFrom r index (as ++ bs)
      = namedFrom r index as ++ namedFrom (r.scan as) (index + countFrom r as) bs := by
  induction as generalizing r index with
  | nil => rfl
  | cons c as ih =>
    have hrest : as.getLast? = some ':' → startsName bs.head? = false := by
      intro hlast
      apply h
      rw [List.getLast?_cons, hlast]
      rfl
    rw [List.cons_append, namedFrom, namedFrom, countFrom, Region.scan_cons]
    by_cases hmark : r = .outside ∧ c = '?'
    · obtain ⟨rfl, rfl⟩ := hmark
      have hstep : Region.outside.step '?' = .outside := by decide
      simp only [and_self, if_true, ih hrest, hstep, List.cons_append, List.append_assoc,
        Nat.add_assoc]
    · have hkept : keptChar r c (as ++ bs).head? = keptChar r c as.head? := by
        apply keptChar_congr
        rintro rfl
        cases as with
        | nil => exact h rfl
        | cons d as => rfl
      rw [if_neg hmark, if_neg hmark, if_neg hmark, hkept, ih hrest, Nat.zero_add, List.append_assoc]

/-- A text without placeholders has one named form, whatever stands before it. -/
theorem namedFrom_congr {r : Region} {cs : List Char} (h : countFrom r cs = 0) (i j : Nat) :
    namedFrom r i cs = namedFrom r j cs := by
  induction cs generalizing r with
  | nil => rfl
  | cons c cs ih =>
    rw [countFrom] at h
    have hmark : ¬ (r = .outside ∧ c = '?') := by
      intro hmark
      rw [if_pos hmark] at h
      omega
    rw [if_neg hmark, Nat.zero_add] at h
    rw [namedFrom, namedFrom, if_neg hmark, if_neg hmark, ih h]

/-- A text without placeholders and colons is its named form. -/
theorem namedFrom_steady {r : Region} {index : Nat} {cs : List Char} (hcount : countFrom r cs = 0)
    (hcolon : ':' ∉ cs) : namedFrom r index cs = cs := by
  induction cs generalizing r with
  | nil => rfl
  | cons c cs ih =>
    rw [countFrom] at hcount
    obtain ⟨hc, hcs⟩ := not_or.mp fun h => hcolon (List.mem_cons.mpr h)
    have hmark : ¬ (r = .outside ∧ c = '?') := by
      intro hmark
      rw [if_pos hmark] at hcount
      omega
    have hkept : keptChar r c cs.head? = [c] := by
      cases r <;> simp [keptChar, Ne.symm hc]
    rw [if_neg hmark, Nat.zero_add] at hcount
    rw [namedFrom, if_neg hmark, hkept, ih hcount hcs, List.singleton_append]

section Texts

variable {s t separator : String} {ts : List String} (first : Nat)

theorem namedText_append (hs : QuoteClosed s)
    (hseam : s.toList.getLast? = some ':' → startsName t.toList.head? = false) :
    namedText first (s ++ t) = namedText first s ++ namedText (first + countPlaceholders s) t := by
  unfold namedText
  rw [String.toList_append, namedFrom_append hseam,
    show Region.scan .outside s.toList = .outside from hs, String.ofList_append]
  rfl

theorem Inert.namedText (h : Inert s) : namedText first s = namedText 0 s :=
  congrArg String.ofList (namedFrom_congr h.2 first 0)

theorem Steady.namedText (h : Steady s) : namedText first s = s := by
  unfold Sql.namedText
  rw [namedFrom_steady h.inert.2 h.colonless, String.ofList_toList]

theorem Steady.before (h : Steady s) : Sql.namedText first (s ++ t) = s ++ Sql.namedText first t := by
  have hseam : s.toList.getLast? = some ':' → startsName t.toList.head? = false :=
    fun hlast => absurd (List.mem_of_getLast? hlast) h.colonless
  rw [namedText_append first h.inert.1 hseam, h.namedText, h.inert.2, Nat.add_zero]

theorem Separates.after (h : Separates separator) (hs : QuoteClosed s) :
    Sql.namedText first (s ++ separator) = Sql.namedText first s ++ separator := by
  rw [namedText_append first hs fun _ => h.begins, h.toSteady.namedText]

/-- Around a separator, texts are named on their own. -/
theorem Separates.between (h : Separates separator) (hs : QuoteClosed s) :
    Sql.namedText first (s ++ separator ++ t)
      = Sql.namedText first s ++ separator ++ Sql.namedText (first + countPlaceholders s) t := by
  have hseam : s.toList.getLast? = some ':' → startsName (separator ++ t).toList.head? = false := by
    intro _
    have hhead := List.head?_eq_some_head h.nonempty
    rw [String.toList_append, List.head?_append, hhead, Option.some_or, ← hhead]
    exact h.begins
  rw [String.append_assoc, namedText_append first hs hseam, h.toSteady.before, String.append_assoc]

theorem Separates.intercalate (h : Separates separator) (hts : ∀ t ∈ ts, QuoteClosed t) :
    Sql.namedText first (separator.intercalate ts) = separator.intercalate (namedTexts first ts) := by
  induction ts generalizing first with
  | nil => rfl
  | cons t ts ih =>
    have ht : QuoteClosed t := hts t List.mem_cons_self
    have hrest := ih (first + countPlaceholders t) fun u hu => hts u (List.mem_cons_of_mem t hu)
    cases ts with
    | nil => rw [namedTexts, namedTexts, String.intercalate_singleton, String.intercalate_singleton]
    | cons u us =>
      rw [String.intercalate_cons_cons, h.between first ht, hrest]
      exact String.intercalate_cons_cons.symm

/-- The placeholders of texts with separators between them are those of the texts. -/
theorem countPlaceholders_intercalate (h : Inert separator) (hts : ∀ t ∈ ts, QuoteClosed t) :
    countPlaceholders (separator.intercalate ts) = (ts.map countPlaceholders).sum := by
  induction ts with
  | nil => rfl
  | cons t ts ih =>
    have ht : QuoteClosed t := hts t List.mem_cons_self
    have hrest := ih fun u hu => hts u (List.mem_cons_of_mem t hu)
    cases ts with
    | nil => rw [String.intercalate_singleton, List.map_singleton, List.sum_singleton]
    | cons u us =>
      rw [String.intercalate_cons_cons, countPlaceholders_append (ht.append h.1),
        countPlaceholders_append ht, h.2, hrest, Nat.add_zero]
      exact List.sum_cons.symm

/-- Texts with the same number of placeholders are numbered in steps of that number. -/
theorem namedTexts_of_count {width : Nat} (hts : ∀ t ∈ ts, countPlaceholders t = width)
    (i : Nat) : namedTexts (first + i * width) ts
      = (ts.zipIdx i).map fun (t, k) => namedText (first + k * width) t := by
  induction ts generalizing i with
  | nil => rfl
  | cons t ts ih =>
    have hnext : first + i * width + countPlaceholders t = first + (i + 1) * width := by
      rw [hts t List.mem_cons_self, Nat.add_mul, Nat.one_mul, Nat.add_assoc]
    rw [namedTexts, hnext, ih fun u hu => hts u (List.mem_cons_of_mem t hu), List.zipIdx_cons,
      List.map_cons]

/-- Texts without placeholders are named whatever stands before them. -/
theorem namedTexts_of_inert (hts : ∀ t ∈ ts, Inert t) :
    namedTexts first ts = ts.map (Sql.namedText 0) := by
  induction ts generalizing first with
  | nil => rfl
  | cons t ts ih =>
    have ht : Inert t := hts t List.mem_cons_self
    rw [namedTexts, ht.namedText, ih _ fun u hu => hts u (List.mem_cons_of_mem t hu), List.map_cons]

end Texts

/-! ## Placeholders and names -/

/-- A name as it stands in the named statement. -/
def namedName (name : String) : String := namedText 0 (quoteName name)

/-- The markers of a row of values. -/
def markedRow (first width : Nat) : String :=
  "(" ++ ", ".intercalate ((List.range' first width).map fun k => ":" ++ paramName k) ++ ")"

/-- Columns with the markers of their values. -/
def markedColumns (names : List String) : List String :=
  names.zipIdx.map fun (name, k) => namedName name ++ " = :" ++ paramName k

theorem namedText_mark (first : Nat) : namedText first "?" = ":" ++ paramName first := by
  apply String.toList_inj.mp
  simp [namedText, namedFrom]

theorem namedText_placeholders (first width : Nat) : namedText first (placeholders width)
    = ", ".intercalate ((List.range' first width).map fun k => ":" ++ paramName k) := by
  have hclosed : ∀ t ∈ List.replicate width "?", QuoteClosed t := by
    intro t ht
    rw [List.eq_of_mem_replicate ht]
    decide
  have hcount : ∀ t ∈ List.replicate width "?", countPlaceholders t = 1 := by
    intro t ht
    rw [List.eq_of_mem_replicate ht]
    decide
  have hnamed := namedTexts_of_count first hcount 0
  rw [Nat.zero_mul, Nat.add_zero] at hnamed
  unfold placeholders
  rw [Separates.intercalate first (by decide) hclosed, hnamed]
  congr 1
  apply List.ext_getElem?
  intro i
  by_cases hi : i < width
  · simp [hi, namedText_mark]
  · simp [hi]

theorem namedText_rowPlaceholders (first width : Nat) :
    namedText first (rowPlaceholders width) = markedRow first width := by
  have hopen : Steady "(" := by decide
  have hclose : Separates ")" := by decide
  unfold rowPlaceholders
  rw [String.append_assoc, hopen.before, hclose.after first (placeholders_spec width).1,
    namedText_placeholders, markedRow, String.append_assoc]

theorem namedText_quoteName (first : Nat) (name : String) :
    namedText first (quoteName name) = namedName name := (inert_quoteName name).namedText first

theorem namedText_nameList (first : Nat) (names : List String) :
    namedText first (nameList names) = ", ".intercalate (names.map namedName) := by
  have hinert : ∀ t ∈ names.map quoteName, Inert t := by
    intro t ht
    obtain ⟨name, -, rfl⟩ := List.mem_map.mp ht
    exact inert_quoteName name
  unfold nameList
  rw [Separates.intercalate first (by decide) fun t ht => (hinert t ht).1,
    namedTexts_of_inert first hinert, List.map_map]
  rfl

/-- Names with a placeholder each, as they are assigned or compared. -/
theorem namedTexts_columns (names : List String) :
    namedTexts 0 (names.map fun name => quoteName name ++ " = ?") = markedColumns names := by
  have hone : countPlaceholders " = ?" = 1 := by decide
  have hcount : ∀ t ∈ names.map fun name => quoteName name ++ " = ?", countPlaceholders t = 1 := by
    intro t ht
    obtain ⟨name, -, rfl⟩ := List.mem_map.mp ht
    rw [countPlaceholders_append (inert_quoteName name).1, (inert_quoteName name).2, hone]
  have hnamed (k : Nat) (name : String) : namedText k (quoteName name ++ " = ?")
      = namedName name ++ " = :" ++ paramName k := by
    have hequals : Separates " = " := by decide
    rw [show " = ?" = " = " ++ "?" by decide, ← String.append_assoc,
      hequals.between k (inert_quoteName name).1, (inert_quoteName name).2, namedText_quoteName,
      Nat.add_zero, namedText_mark, show " = :" = " = " ++ ":" by decide, String.append_assoc,
      String.append_assoc, String.append_assoc]
  have htexts := namedTexts_of_count 0 hcount 0
  rw [Nat.zero_mul, Nat.add_zero] at htexts
  rw [htexts, List.zipIdx_map, List.map_map, markedColumns]
  apply List.map_congr_left
  intro e _
  simp [hnamed]

end SqlComposer.Sql

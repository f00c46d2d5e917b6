import Mathlib.Data.List.Basic
import Mathlib.Tactic.SplitIfs
import SqlComposer.Sql.Identifier

/-!
# Quoted names as the server reads them

The server has rules of its own for a name: dots outside backticks separate its segments, a bare
star is the wildcard, and any other segment stands between backticks, where a doubled backtick is
one. Read by these rules, a quoted name gives back its segments, one for one and each as long as
it has to be, but with every percent sign doubled: nothing on the server's side undoes that.

So a name is read as it was meant exactly if it has no percent sign. Different names are written
differently all the same, because what is read still tells them apart.
-/

set_option autoImplicit false

namespace SqlComposer.Sql

/-! ## The server's reading -/

/-- A segment of a name on the server. -/
inductive Segment where
  /-- The wildcard, which stands for all columns. -/
  | wildcard
  /-- What is called by these characters. -/
  | named (text : List Char)
  deriving DecidableEq, Repr

/-- The parts of a text between the dots outside backticks. `quoted` says whether the text begins
between backticks. -/
def dottedParts : (quoted : Bool) → List Char → List (List Char)
  | _, [] => [[]]
  | quoted, c :: cs =>
    if c == '.' && !quoted then [] :: dottedParts quoted cs
    else (dottedParts (if c == '\x60' then !quoted else quoted) cs).modifyHead (c :: ·)

/-- What stands before a closing backtick at the end of a text. A doubled backtick is one, and a
backtick that stands alone is an error. -/
def unquote? : List Char → Option (List Char)
  | [] => none
  | ['\x60'] => some []
  | '\x60' :: '\x60' :: cs => (unquote? cs).map ('\x60' :: ·)
  | c :: cs => if c == '\x60' then none else (unquote? cs).map (c :: ·)

/-- Reads a part of a name: a bare star, or text between backticks. -/
def Segment.read? : List Char → Option Segment
  | ['*'] => some .wildcard
  | '\x60' :: cs => (unquote? cs).map .named
  | _ => none

/-- Reads a name. -/
def readName? (sql : String) : Option (List Segment) :=
  (dottedParts false sql.toList).mapM Segment.read?

/-- What a caller means by a segment. -/
def Segment.meant (cs : List Char) : Segment := if cs = ['*'] then .wildcard else .named cs

/-- The segments that a caller means by a name. -/
def meantSegments (name : String) : List Segment := (segments name).map Segment.meant

/-! ## Doubled percent signs -/

/-- A text with each percent sign doubled. -/
def doublePercent (cs : List Char) : List Char :=
  cs.flatMap fun c => if c = '%' then ['%', '%'] else [c]

theorem doublePercent_cons (c : Char) (cs : List Char) :
    doublePercent (c :: cs) = (if c = '%' then ['%', '%'] else [c]) ++ doublePercent cs := rfl

theorem length_doublePercent (cs : List Char) :
    (doublePercent cs).length = cs.length + cs.count '%' := by
  induction cs with
  | nil => rfl
  | cons c cs ih =>
    rw [doublePercent_cons, List.length_append, ih, List.length_cons, List.count_cons]
    by_cases hc : c = '%'
    · simp [hc]
      omega
    · simp [hc]
      omega

/-- Only a text without percent signs stays as it is. -/
theorem doublePercent_eq_self_iff (cs : List Char) : doublePercent cs = cs ↔ '%' ∉ cs := by
  constructor
  · intro h
    have hlength := length_doublePercent cs
    rw [h] at hlength
    exact List.count_eq_zero.mp (by omega)
  · intro h
    induction cs with
    | nil => rfl
    | cons c cs ih =>
      rw [List.mem_cons, not_or] at h
      rw [doublePercent_cons, if_neg (Ne.symm h.1), ih h.2]
      rfl

theorem doublePercent_injective {as bs : List Char} (h : doublePercent as = doublePercent bs) :
    as = bs := by
  induction as generalizing bs with
  | nil =>
    have hlength := congrArg List.length h
    rw [length_doublePercent, length_doublePercent, List.length_nil, List.count_nil] at hlength
    exact (List.eq_nil_of_length_eq_zero (by omega)).symm
  | cons a as ih =>
    cases bs with
    | nil =>
      have hlength := congrArg List.length h
      rw [length_doublePercent, length_doublePercent] at hlength
      simp at hlength
    | cons b bs =>
      rw [doublePercent_cons, doublePercent_cons] at h
      split_ifs at h with ha hb hb
      · rw [ha, hb, ih (List.append_cancel_left h)]
      · exact absurd (List.cons.inj h).1.symm hb
      · exact absurd (List.cons.inj h).1 ha
      · obtain ⟨rfl, htail⟩ := List.cons.inj h
        rw [ih htail]

/-- The star is the wildcard before and after. -/
theorem doublePercent_eq_star_iff (cs : List Char) : doublePercent cs = ['*'] ↔ cs = ['*'] := by
  have hstar : doublePercent ['*'] = ['*'] := by decide
  constructor
  · intro h
    exact doublePercent_injective (h.trans hstar.symm)
  · rintro rfl
    exact hstar

/-! ## Reading what is written -/

theorem nameChar_of_ne {c : Char} (hquote : c ≠ '\x60') (hpercent : c ≠ '%') : nameChar c = [c] := by
  simp [nameChar, hquote, hpercent]

/-- What is written for a segment has no dot outside backticks. -/
theorem dottedParts_nameChars (cs rest : List Char) :
    dottedParts true (cs.flatMap nameChar ++ '\x60' :: rest)
      = (dottedParts false rest).modifyHead (cs.flatMap nameChar ++ '\x60' :: ·) := by
  induction cs with
  | nil => simp [dottedParts]
  | cons c cs ih =>
    rw [List.flatMap_cons, List.append_assoc]
    by_cases hquote : c = '\x60'
    · -- a doubled backtick leaves the quotes and enters them again
      subst hquote
      rw [show nameChar '\x60' = ['\x60', '\x60'] by decide]
      simp [dottedParts, ih, List.modifyHead_modifyHead, Function.comp_def]
    · by_cases hpercent : c = '%'
      · subst hpercent
        rw [show nameChar '%' = ['%', '%'] by decide]
        simp [dottedParts, ih, List.modifyHead_modifyHead, Function.comp_def]
      · rw [nameChar_of_ne hquote hpercent]
        simp [dottedParts, ih, hquote, List.modifyHead_modifyHead, Function.comp_def]

theorem dottedParts_quoteSegment (segment rest : List Char) :
    dottedParts false (quoteSegment segment ++ rest)
      = (dottedParts false rest).modifyHead (quoteSegment segment ++ ·) := by
  unfold quoteSegment
  split_ifs with hstar
  · subst hstar
    simp [dottedParts]
  · simp [dottedParts, dottedParts_nameChars, List.modifyHead_modifyHead, Function.comp_def]

/-- The parts of a written name are its written segments. -/
theorem dottedParts_intercalate {parts : List (List Char)} (hparts : parts ≠ []) :
    dottedParts false (['.'].intercalate (parts.map quoteSegment)) = parts.map quoteSegment := by
  induction parts with
  | nil => exact absurd rfl hparts
  | cons part parts ih =>
    cases parts with
    | nil =>
      have hlast := dottedParts_quoteSegment part []
      rw [List.append_nil] at hlast
      rw [List.map_cons, List.map_nil, List.intercalate_singleton, hlast]
      simp [dottedParts]
    | cons next parts =>
      rw [List.map_cons, List.map_cons, List.intercalate_cons_cons, List.append_assoc,
        dottedParts_quoteSegment, ← List.map_cons, List.singleton_append]
      simp only [dottedParts]
      rw [if_pos (by decide), ih (List.cons_ne_nil _ _)]
      simp

/-- Between its backticks a segment is read with its percent signs doubled. -/
theorem unquote?_nameChars (cs : List Char) :
    unquote? (cs.flatMap nameChar ++ ['\x60']) = some (doublePercent cs) := by
  induction cs with
  | nil => rfl
  | cons c cs ih =>
    rw [List.flatMap_cons, List.append_assoc, doublePercent_cons]
    by_cases hquote : c = '\x60'
    · subst hquote
      rw [show nameChar '\x60' = ['\x60', '\x60'] by decide, if_neg (by decide)]
      simp [unquote?, ih]
    · by_cases hpercent : c = '%'
      · subst hpercent
        rw [show nameChar '%' = ['%', '%'] by decide, if_pos rfl]
        simp [unquote?, ih]
      · rw [nameChar_of_ne hquote hpercent, if_neg hpercent]
        simp [unquote?, ih, hquote]

theorem read?_quoteSegment (segment : List Char) :
    Segment.read? (quoteSegment segment) = some (.meant (doublePercent segment)) := by
  unfold Segment.meant
  simp only [doublePercent_eq_star_iff]
  unfold quoteSegment
  split_ifs with hstar
  · subst hstar
    rfl
  · rw [Segment.read?, unquote?_nameChars]
    rfl

/-- A quoted name is read segment by segment, with its percent signs doubled. -/
theorem readName?_quoteName (name : String) :
    readName? (quoteName name)
      = some ((segments name).map fun segment => .meant (doublePercent segment)) := by
  have hparts : segments name ≠ [] := List.splitOn_ne_nil _ _
  unfold readName? quoteName
  rw [String.toList_ofList, dottedParts_intercalate hparts]
  generalize segments name = parts
  clear hparts
  induction parts with
  | nil => rfl
  | cons part parts ih =>
    rw [List.map_cons, List.mapM_cons, read?_quoteSegment, ih]
    rfl

/-! ## What is meant and what is read -/

theorem Segment.meant_injective {as bs : List Char} (h : meant as = meant bs) : as = bs := by
  unfold meant at h
  split_ifs at h with has hbs
  · rw [has, hbs]
  · exact Segment.named.inj h

/-- What separates parts is no character of another kind. -/
theorem mem_intercalate_iff {c separator : Char} (hc : c ≠ separator) (parts : List (List Char)) :
    c ∈ [separator].intercalate parts ↔ ∃ part ∈ parts, c ∈ part := by
  induction parts with
  | nil => simp
  | cons part parts ih =>
    cases parts with
    | nil => simp
    | cons next parts =>
      rw [List.intercalate_cons_cons, List.mem_append, List.mem_append, List.mem_singleton, ih]
      simp [hc]

theorem mem_iff_mem_segments {c : Char} (hc : c ≠ '.') (name : String) :
    c ∈ name.toList ↔ ∃ segment ∈ segments name, c ∈ segment := by
  rw [← mem_intercalate_iff hc, segments, List.intercalate_splitOn]

theorem segments_injective {a b : String} (h : segments a = segments b) : a = b := by
  have hjoined := congrArg ['.'].intercalate h
  rw [segments, segments, List.intercalate_splitOn, List.intercalate_splitOn] at hjoined
  exact String.toList_inj.mp hjoined

/-- Whatever its characters are, a name is read segment by segment, and each segment as it was
meant but for its percent signs, which are doubled. So it is read as it was meant exactly if it has
none. What is read tells names apart in any case, so different names are written differently. -/
theorem quoted_names_read_back (name : String) :
    readName? (quoteName name)
        = some ((segments name).map fun segment => .meant (doublePercent segment))
      ∧ (readName? (quoteName name) = some (meantSegments name) ↔ '%' ∉ name.toList)
      ∧ ∀ other, quoteName other = quoteName name → other = name := by
  refine ⟨readName?_quoteName name, ?_, ?_⟩
  · rw [readName?_quoteName, meantSegments, Option.some_inj, List.map_inj_left,
      mem_iff_mem_segments (by decide)]
    simp only [not_exists, not_and]
    refine forall₂_congr fun segment _ => ?_
    rw [← doublePercent_eq_self_iff]
    exact ⟨Segment.meant_injective, congrArg Segment.meant⟩
  · intro other h
    have hread := congrArg readName? h
    rw [readName?_quoteName, readName?_quoteName, Option.some_inj] at hread
    apply segments_injective
    refine List.map_injective_iff.mpr (fun as bs h => ?_) hread
    exact doublePercent_injective (Segment.meant_injective h)

/-- A column with a percent sign in its name is looked for under another one. -/
theorem discount_misread :
    quoteName "orders.discount%" = "\x60orders\x60.\x60discount%%\x60"
      ∧ readName? (quoteName "orders.discount%")
        = some [.named "orders".toList, .named "discount%%".toList]
      ∧ meantSegments "orders.discount%" = [.named "orders".toList, .named "discount%".toList]
      ∧ readName? (quoteName "orders.discount%") ≠ some (meantSegments "orders.discount%") := by
  decide

end SqlComposer.Sql

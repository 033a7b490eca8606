import MapAudit.SourceMap.Basic
import Mathlib.Data.List.TakeWhile

/-! # Lookup by scanning

    The position that a map answers with can be found without any search: among
    the mappings on the line of the place and not after it, one right at the place
    answers, the first if there are several, and otherwise the last one does.

    The lookup of a map asks for the last mapping on any line and looks at its
    line afterwards. Since the mappings are in order, the two agree.
-/

namespace MapAudit

open Text (Coordinate)

namespace Mapping

variable {line column : Nat}

theorem isBefore_iff {m : Mapping} :
    m.isBefore line column = true ↔ m.line < line ∨ m.line = line ∧ m.column < column := by
  simp [isBefore]

/-- What is not after a mapping before a place is before the place too. -/
theorem isBefore_of_le {m n : Mapping} (h : m ≤ n) (hn : n.isBefore line column = true) :
    m.isBefore line column = true := by
  rw [isBefore_iff] at *
  rw [le_iff] at h
  omega

/-- In ordered mappings, none is before a place once one is not. -/
theorem not_isBefore_of_mem_dropWhile {m : Mapping} {l : List Mapping}
    (h : l.Pairwise (· ≤ ·)) (hm : m ∈ l.dropWhile (isBefore · line column)) :
    ¬ m.isBefore line column = true := by
  induction l with
  | nil => simp at hm
  | cons n rest ih =>
    obtain ⟨hn, hrest⟩ := List.pairwise_cons.1 h
    rw [List.dropWhile_cons] at hm
    split at hm
    · exact ih hrest hm
    · next hnot =>
      rcases List.mem_cons.1 hm with rfl | hm
      · exact hnot
      · exact fun hbefore => hnot (isBefore_of_le (hn m hm) hbefore)

theorem perm_insert (m : Mapping) (l : List Mapping) : (insert m l).Perm (m :: l) := by
  induction l with
  | nil => exact .refl _
  | cons n rest ih =>
    rw [insert]
    split
    · exact .refl _
    · exact (ih.cons n).trans (.swap m n rest)

/-- Sorting rearranges mappings. -/
theorem perm_sort (l : List Mapping) : (sort l).Perm l := by
  induction l with
  | nil => exact .refl _
  | cons m rest ih =>
    have hcons : sort (m :: rest) = insert m (sort rest) := rfl
    rw [hcons]
    exact (perm_insert m (sort rest)).trans (ih.cons m)

theorem mem_sort {m : Mapping} {l : List Mapping} : m ∈ sort l ↔ m ∈ l :=
  (perm_sort l).mem_iff

end Mapping

namespace SourceMap

variable (map : SourceMap) (line column : Nat)

/-- The mappings on a line up to a column, in their order. -/
def upTo : List Mapping :=
  map.mappings.toList.filter fun m => m.line = line ∧ m.column ≤ column

/-- **Scan** for the mapping that answers for a place. -/
def scan? : Option Mapping :=
  ((map.upTo line column).find? (·.column = column)).or (map.upTo line column).getLast?

/-- **Position by scanning**. -/
def scannedPosition (generated : Coordinate) : OriginalPosition :=
  if generated.line = 0 then .unknown
  else
    match map.scan? (generated.line - 1) generated.column with
    | none => .unknown
    | some m => map.answer m generated.column

/-- The mappings before a place. -/
def before : List Mapping :=
  map.mappings.toList.takeWhile (·.isBefore line column)

/-- The mappings that are not before a place. -/
def notBefore : List Mapping :=
  map.mappings.toList.dropWhile (·.isBefore line column)

theorem before_append_notBefore :
    map.before line column ++ map.notBefore line column = map.mappings.toList :=
  List.takeWhile_append_dropWhile

variable {map line column}

theorem isBefore_of_mem_before {m : Mapping} (h : m ∈ map.before line column) :
    m.isBefore line column = true :=
  List.mem_takeWhile_imp (p := (Mapping.isBefore · line column)) h

theorem not_isBefore_of_mem_notBefore {m : Mapping} (h : m ∈ map.notBefore line column) :
    ¬ m.isBefore line column = true :=
  Mapping.not_isBefore_of_mem_dropWhile map.sorted h

/-! ### The lookup -/

/-- The search stops behind the mappings before the place. -/
theorem bisect_isBefore {p : Nat → Bool}
    (hp : ∀ i m, map.mappings[i]? = some m → p i = m.isBefore line column) :
    bisect p map.mappings.size = (map.before line column).length := by
  have hsplit := before_append_notBefore map line column
  have hsize : map.mappings.size =
      (map.before line column).length + (map.notBefore line column).length := by
    rw [← Array.length_toList, ← hsplit, List.length_append]
  apply bisect_eq (by omega)
  · intro i hi
    have hget : map.mappings[i]? = some (map.before line column)[i] := by
      rw [← Array.getElem?_toList, ← hsplit, List.getElem?_append_left hi,
        List.getElem?_eq_getElem hi]
    rw [hp i _ hget]
    exact isBefore_of_mem_before (List.getElem_mem hi)
  · intro i hi hn
    have hi' : i - (map.before line column).length < (map.notBefore line column).length := by omega
    have hget : map.mappings[i]? =
        some (map.notBefore line column)[i - (map.before line column).length] := by
      rw [← Array.getElem?_toList, ← hsplit, List.getElem?_append_right hi,
        List.getElem?_eq_getElem hi']
    rw [hp i _ hget]
    exact Bool.eq_false_iff.2 (not_isBefore_of_mem_notBefore (List.getElem_mem hi'))

/-- **Lookup** in terms of the mappings before the place and of those after it. -/
theorem lookup?_eq :
    map.lookup? line column =
      match (map.notBefore line column).head? with
      | some m =>
        if m.line = line ∧ m.column = column then some m else (map.before line column).getLast?
      | none => (map.before line column).getLast? := by
  have hsplit := before_append_notBefore map line column
  -- what stands where the search stops, and what stands before it
  have hnext : map.mappings[(map.before line column).length]? =
      (map.notBefore line column).head? := by
    rw [← Array.getElem?_toList, ← hsplit, List.getElem?_append_right (Nat.le_refl _),
      Nat.sub_self, List.head?_eq_getElem?]
  have hprevious : (if (map.before line column).length = 0 then none
      else map.mappings[(map.before line column).length - 1]?) =
      (map.before line column).getLast? := by
    split
    · next h0 => rw [List.length_eq_zero_iff.1 h0, List.getLast?_nil]
    · rw [← Array.getElem?_toList, ← hsplit, List.getElem?_append_left (by omega),
        List.getLast?_eq_getElem?]
  unfold lookup?
  rw [bisect_isBefore (fun i m hm => by rw [hm])]
  cases hhead : (map.notBefore line column).head? with
  | none => simp only [hnext, hhead, hprevious]
  | some m => simp only [hnext, hhead, hprevious]

/-! ### The scan -/

/-- What is on the line up to the column is on the line and before the place, or right at it. -/
theorem upTo_eq :
    map.upTo line column =
      (map.before line column).filter (·.line = line) ++
        (map.notBefore line column).filter (fun m => m.line = line ∧ m.column = column) := by
  rw [upTo, ← before_append_notBefore map line column, List.filter_append]
  congr 1
  · apply List.filter_congr
    intro m hm
    have := Mapping.isBefore_iff.1 (isBefore_of_mem_before hm)
    simp only [decide_eq_decide]
    omega
  · apply List.filter_congr
    intro m hm
    have := mt Mapping.isBefore_iff.2 (not_isBefore_of_mem_notBefore hm)
    simp only [decide_eq_decide]
    omega

/-- If the first mapping that is not before the place is not right at it, none is. -/
theorem filter_notBefore_eq_nil
    (h : ∀ m, (map.notBefore line column).head? = some m → ¬ (m.line = line ∧ m.column = column)) :
    (map.notBefore line column).filter (fun m => m.line = line ∧ m.column = column) = [] := by
  rw [List.filter_eq_nil_iff]
  intro m hm
  simp only [decide_eq_true_eq]
  rintro ⟨hline, hcolumn⟩
  cases hrest : map.notBefore line column with
  | nil => simp [hrest] at hm
  | cons n rest =>
    have hmem : n ∈ map.notBefore line column := by rw [hrest]; exact List.mem_cons_self
    have hn := mt Mapping.isBefore_iff.2 (not_isBefore_of_mem_notBefore hmem)
    have hsorted : (map.notBefore line column).Pairwise (· ≤ ·) :=
      map.sorted.sublist (List.dropWhile_sublist _)
    rw [hrest] at hsorted hm
    have hle : n.line < m.line ∨ n.line = m.line ∧ n.column ≤ m.column := by
      rcases List.mem_cons.1 hm with rfl | hm
      · exact Or.inr ⟨rfl, Nat.le_refl _⟩
      · exact Mapping.le_iff.1 ((List.pairwise_cons.1 hsorted).1 m hm)
    refine h n (by rw [hrest, List.head?_cons]) ?_
    omega

/-- No mapping before the place is right at it. -/
theorem find?_filter_before :
    ((map.before line column).filter (·.line = line)).find? (·.column = column) = none := by
  rw [List.find?_eq_none]
  intro m hm
  obtain ⟨hbefore, hline⟩ := List.mem_filter.1 hm
  have := Mapping.isBefore_iff.1 (isBefore_of_mem_before hbefore)
  simp only [decide_eq_true_eq] at hline ⊢
  omega

/-- Among the mappings before the place, the last one on its line is the last one of
    all, unless there is none on the line. -/
theorem getLast?_filter_before :
    ((map.before line column).filter (·.line = line)).getLast? =
      (map.before line column).getLast?.filter (·.line = line) := by
  rcases List.eq_nil_or_concat (map.before line column) with hnil | ⟨init, last, hconcat⟩
  · simp [hnil]
  · rw [List.concat_eq_append] at hconcat
    have hsorted : (init ++ [last]).Pairwise (· ≤ ·) := by
      rw [← hconcat]
      exact map.sorted.sublist (List.takeWhile_sublist _)
    have hmem : last ∈ map.before line column := by simp [hconcat]
    have hlast := Mapping.isBefore_iff.1 (isBefore_of_mem_before hmem)
    rw [hconcat]
    by_cases hline : last.line = line
    · simp [List.filter_append, Option.filter_some, hline]
    · -- the last mapping is on an earlier line, and so are those before it
      have hinit : init.filter (·.line = line) = [] := by
        rw [List.filter_eq_nil_iff]
        intro m hm
        have := Mapping.le_iff.1 ((List.pairwise_append.1 hsorted).2.2 m hm last (by simp))
        simp only [decide_eq_true_eq]
        omega
      simp [List.filter_append, Option.filter_some, hinit, hline]

/-- **Scan and lookup** find the same mapping, once the line is looked at. -/
theorem scan?_eq : map.scan? line column = (map.lookup? line column).filter (·.line = line) := by
  rw [scan?, upTo_eq, lookup?_eq, List.find?_append, find?_filter_before, Option.none_or]
  cases hhead : (map.notBefore line column).head? with
  | none =>
    have hnone : (map.notBefore line column).filter
        (fun m => m.line = line ∧ m.column = column) = [] :=
      filter_notBefore_eq_nil (by simp [hhead])
    rw [hnone, List.find?_nil, Option.none_or, List.append_nil, getLast?_filter_before]
  | some m =>
    -- a mapping right at the place is found by both, otherwise it is the last one before the place
    by_cases hm : m.line = line ∧ m.column = column
    · obtain ⟨rest, hrest⟩ := List.head?_eq_some_iff.1 hhead
      simp [hrest, hm.1, hm.2, Option.filter_some]
    · have hnone : (map.notBefore line column).filter
          (fun m => m.line = line ∧ m.column = column) = [] := by
        apply filter_notBefore_eq_nil
        intro n hn
        rw [hhead, Option.some.injEq] at hn
        exact hn ▸ hm
      simp only [hnone, List.find?_nil, Option.none_or, List.append_nil, getLast?_filter_before,
        if_neg hm]

/-- **Original positions** are what scanning all mappings gives. -/
theorem originalPosition_eq_scannedPosition (generated : Coordinate) :
    map.originalPosition generated = map.scannedPosition generated := by
  rw [originalPosition, scannedPosition]
  split
  · rfl
  · rw [scan?_eq]
    cases map.lookup? (generated.line - 1) generated.column with
    | none => rfl
    | some m =>
      by_cases hline : m.line = generated.line - 1
      · simp [hline, Option.filter_some]
      · simp [hline, Option.filter_some]

end SourceMap

end MapAudit

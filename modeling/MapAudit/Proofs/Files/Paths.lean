import MapAudit.Files.Path
import Mathlib.Data.List.Infix
import Mathlib.Data.List.TakeWhile

/-! # Paths by their segments

    What is said of a path by its text alone: which segments it has when it is followed further,
    and which the directory has that it lies in. A directory that a path lies in has a tidy path:
    it ends in a name, unless it is the top or has no text at all.
-/

namespace MapAudit.Path

/-! ### One more segment -/

/-- The segments of a path that is to be followed further. -/
def stem (p : Path) : List String :=
  if p.segments.getLast? = some "" then p.segments.dropLast else p.segments

theorem join_segment (p : Path) (segment : String) :
    p.join ⟨[segment]⟩ = ⟨p.stem ++ [segment]⟩ := by
  have hrelative : (Path.mk [segment]).isAbsolute = false := by
    cases h : (Path.mk [segment]).isAbsolute
    · rfl
    · exact absurd h (by simp [isAbsolute])
  unfold join stem
  rw [hrelative, if_neg Bool.false_ne_true]
  by_cases h : p.segments.getLast? = some ""
  · rw [if_pos h, if_pos h]
  · rw [if_neg h, if_neg h]

theorem stem_concat {segments : List String} {segment : String} (h : segment ≠ "") :
    (Path.mk (segments ++ [segment])).stem = segments ++ [segment] := by
  unfold stem
  rw [if_neg]
  simpa using h

/-- The last segment is not left out if it is a name. -/
theorem dropIdle_concat {segments : List String} {segment : String}
    (h : isIdle segment = false) : dropIdle (segments ++ [segment]) = segments ++ [segment] := by
  unfold dropIdle
  rw [List.reverse_append, List.reverse_singleton, List.singleton_append,
    List.dropWhile_cons_of_neg (by simp [h]), List.reverse_cons, List.reverse_reverse]

/-- A path that does not end with a slash stays as it is. -/
theorem withoutLastSlashes_concat {stem : List String} {segment : String} (h : segment ≠ "") :
    (Path.mk (stem ++ [segment])).withoutLastSlashes = ⟨stem ++ [segment]⟩ := by
  have hname : (segment == "") = false := beq_eq_false_iff_ne.2 h
  unfold withoutLastSlashes
  simp only [List.reverse_append, List.reverse_cons, List.reverse_nil, List.nil_append,
    List.singleton_append, List.dropWhile_cons, hname, Bool.false_eq_true, if_false,
    List.reverse_reverse]
  cases stem <;> rfl

theorem concat_ne_empty {stem : List String} {segment : String} (h : segment ≠ "") :
    Path.mk (stem ++ [segment]) ≠ .empty := by
  intro heq
  have hlast : stem ++ [segment] = [] ++ [""] := congrArg segments heq
  exact h (List.singleton_inj.1 (List.append_inj' hlast rfl).2)

/-- The size of a path without its last segment. -/
theorem size_concat (stem : List String) :
    ∃ n, ∀ segment, (Path.mk (stem ++ [segment])).text.utf8ByteSize = n + segment.utf8ByteSize := by
  by_cases h : stem = []
  · subst h
    exact ⟨0, fun segment => by simp [text]⟩
  · refine ⟨("/".intercalate stem ++ "/").utf8ByteSize, ?_⟩
    intro segment
    unfold text
    rw [String.intercalate_append_of_ne_nil h (by simp), String.intercalate_singleton,
      String.utf8ByteSize_append]

/-- A path is at least as long as those that it begins with. -/
theorem size_le_of_prefix {segments segments' : List String} (h : segments <+: segments')
    (hne : segments ≠ []) :
    (Path.mk segments).text.utf8ByteSize ≤ (Path.mk segments').text.utf8ByteSize := by
  obtain ⟨rest, rfl⟩ := h
  by_cases hrest : rest = []
  · rw [hrest, List.append_nil]
  · unfold Path.text
    rw [String.intercalate_append_of_ne_nil hne hrest, String.append_assoc,
      String.utf8ByteSize_append]
    exact Nat.le_add_right _ _

/-- A path with some text begins with a slash if its first segment is empty. -/
theorem isAbsolute_iff {p : Path} (h : p ≠ .empty) :
    p.isAbsolute = true ↔ p.segments.head? = some "" := by
  obtain ⟨segments⟩ := p
  cases segments with
  | nil => simp [isAbsolute]
  | cons first rest =>
    by_cases hfirst : first = ""
    · subst hfirst
      cases rest with
      | nil => exact absurd rfl h
      | cons next others => simp [isAbsolute]
    · simp only [isAbsolute, List.head?_cons, Option.some.injEq, hfirst, iff_false]
      split
      · next heq => exact absurd (List.cons.inj heq).1 hfirst
      · exact Bool.false_ne_true

/-! ### Further up -/

variable {p q : Path} {first segment : String} {stem segments : List String}

/-- **Tidy paths**: they do not end in a segment that leads nowhere, unless that is all. -/
inductive IsTidy : Path → Prop where
  /-- The path without any text. -/
  | empty : IsTidy .empty
  /-- The path of the top. -/
  | top : IsTidy ⟨["", ""]⟩
  /-- A path with one segment. -/
  | single {segment : String} (filled : segment ≠ "") : IsTidy ⟨[segment]⟩
  /-- A path with more segments that ends in a name. -/
  | named {first segment : String} {stem : List String} (busy : isIdle segment = false) :
      IsTidy ⟨first :: (stem ++ [segment])⟩

theorem ne_empty_of_not_isIdle (h : isIdle segment = false) : segment ≠ "" := by
  rintro rfl
  exact absurd h (by decide)

theorem IsTidy.withoutLastSlashes (h : p.IsTidy) : p.withoutLastSlashes = p := by
  cases h with
  | empty => rfl
  | top => rfl
  | single filled => exact @withoutLastSlashes_concat [] _ filled
  | named busy => exact @withoutLastSlashes_concat (_ :: _) _ (ne_empty_of_not_isIdle busy)

/-- Segments without the idle ones at their end are none, or end in a name. -/
theorem dropIdle_cases (segments : List String) :
    dropIdle segments = [] ∨ ∃ stem segment, dropIdle segments = stem ++ [segment] ∧
      isIdle segment = false := by
  induction segments using List.reverseRecOn with
  | nil => exact .inl rfl
  | append_singleton init last ih =>
    by_cases hlast : isIdle last = true
    · have hdrop : dropIdle (init ++ [last]) = dropIdle init := by
        simp [dropIdle, hlast]
      rw [hdrop]
      exact ih
    · rw [Bool.not_eq_true] at hlast
      exact .inr ⟨init, last, dropIdle_concat hlast, hlast⟩

/-- What is dropped leads nowhere. -/
theorem exists_eq_dropIdle_append (segments : List String) :
    ∃ idles, segments = dropIdle segments ++ idles ∧ ∀ s ∈ idles, isIdle s = true := by
  refine ⟨(segments.reverse.takeWhile isIdle).reverse, ?_, ?_⟩
  · unfold dropIdle
    rw [← List.reverse_append, List.takeWhile_append_dropWhile, List.reverse_reverse]
  · intro s hs
    exact List.mem_takeWhile_imp (List.mem_reverse.1 hs)

theorem prefix_dropIdle (segments : List String) : dropIdle segments <+: segments := by
  obtain ⟨idles, heq, -⟩ := exists_eq_dropIdle_append segments
  exact ⟨idles, heq.symm⟩

theorem parent?_single (h : segment ≠ "") : (Path.mk [segment]).parent? = some .empty := by
  unfold parent?
  split
  · next rest heq => exact absurd (List.cons.inj heq).1 h
  · next first rest _ heq =>
    obtain ⟨rfl, rfl⟩ := List.cons.inj heq
    rfl
  · next heq => exact absurd heq nofun

/-- **The directory above**, by the segments of a path. -/
theorem parent?_cases (h : p.parent? = some q) :
    q = .empty ∨ q = ⟨["", ""]⟩ ∨ ∃ first rest, p.segments = first :: rest ∧
      q = ⟨first :: dropIdle (dropIdle rest).dropLast⟩ ∧
      (first = "" → dropIdle (dropIdle rest).dropLast ≠ []) := by
  unfold parent? at h
  split at h
  · next rest hsegments =>
    split at h
    · cases h
    · next s names hnames =>
      rw [← hnames] at h
      split at h
      · exact .inr (.inl (Option.some.inj h).symm)
      · next hne => exact .inr (.inr ⟨"", rest, hsegments, (Option.some.inj h).symm, fun _ => hne⟩)
  · next first rest hne hsegments =>
    split at h
    · exact .inl (Option.some.inj h).symm
    · next s names hnames =>
      rw [← hnames] at h
      exact .inr (.inr ⟨first, rest, hsegments, (Option.some.inj h).symm, fun hfirst =>
        (hne hfirst).elim⟩)
  · cases h

/-- A directory that a path lies in has a tidy path. -/
theorem isTidy_of_parent? (h : p.parent? = some q) : q.IsTidy := by
  rcases parent?_cases h with rfl | rfl | ⟨first, rest, -, rfl, hfilled⟩
  · exact .empty
  · exact .top
  · rcases dropIdle_cases (dropIdle rest).dropLast with hnil | ⟨stem, segment, heq, hbusy⟩
    · rw [hnil]
      exact .single fun hfirst => hfilled hfirst hnil
    · rw [heq]
      exact .named hbusy

/-- It has no other names than the path. -/
theorem mem_of_parent? (h : p.parent? = some q) (hmem : segment ∈ q.segments) :
    segment = "" ∨ segment ∈ p.segments := by
  rcases parent?_cases h with rfl | rfl | ⟨first, rest, hsegments, rfl, -⟩
  · exact .inl (List.mem_singleton.1 hmem)
  · exact .inl (by simpa using hmem)
  · right
    rw [hsegments]
    rcases List.mem_cons.1 hmem with rfl | hmem
    · exact List.mem_cons_self
    · have hpart : dropIdle (dropIdle rest).dropLast <+: rest :=
        (prefix_dropIdle _).trans ((List.dropLast_prefix _).trans (prefix_dropIdle _))
      exact List.mem_cons_of_mem _ (hpart.subset hmem)

/-- The directory that a path with a name at its end lies in. -/
theorem parent?_named (h : isIdle segment = false) :
    (Path.mk (first :: (stem ++ [segment]))).parent? =
      if first = "" ∧ dropIdle stem = [] then some ⟨["", ""]⟩
      else some ⟨first :: dropIdle stem⟩ := by
  have hlast : dropIdle (stem ++ [segment]) = stem ++ [segment] := dropIdle_concat h
  obtain ⟨s, names, hnames⟩ := List.exists_cons_of_ne_nil (show stem ++ [segment] ≠ [] by simp)
  have habove : dropIdle (s :: names).dropLast = dropIdle stem := by
    rw [← hnames, List.dropLast_concat]
  unfold parent?
  split
  · next rest heq =>
    obtain ⟨rfl, rfl⟩ := List.cons.inj heq
    rw [hlast, hnames]
    dsimp only
    rw [habove]
    cases dropIdle stem <;> simp
  · next first' rest hne heq =>
    obtain ⟨rfl, rfl⟩ := List.cons.inj heq
    have hfirst : first ≠ "" := hne
    rw [hlast, hnames]
    dsimp only
    rw [habove, if_neg fun hand => hfirst hand.1]
  · next heq => exact absurd heq nofun

/-- A file that is named lies in the directory that is named before it. -/
theorem parent?_concat {directory file : String} (hne : directory ≠ "")
    (hdirectory : isIdle directory = false) (hfile : isIdle file = false) :
    (Path.mk (stem ++ [directory] ++ [file])).parent? = some ⟨stem ++ [directory]⟩ := by
  cases stem with
  | nil =>
    have habove : (Path.mk (directory :: ([] ++ [file]))).parent? = _ := parent?_named hfile
    rw [if_neg fun hand => hne hand.1] at habove
    exact habove
  | cons first rest =>
    have habove : (Path.mk (first :: (rest ++ [directory] ++ [file]))).parent? = _ :=
      parent?_named hfile
    rw [dropIdle_concat hdirectory, if_neg (by simp)] at habove
    exact habove

/-! ### Down from a directory -/

/-- Texts with the same segments are the same. -/
theorem ofString_injective : Function.Injective ofString := by
  intro s t h
  have hmap := congrArg segments h
  have hsplit : s.toList.splitOn '/' = t.toList.splitOn '/' :=
    List.map_injective_iff.2 (fun a b hab => String.ofList_injective hab) hmap
  have hlist := congrArg (['/'].intercalate) hsplit
  rw [List.intercalate_splitOn, List.intercalate_splitOn] at hlist
  exact String.toList_injective hlist

/-- A path that is followed from a directory leads on by its own segments, unless it begins at
    the top. -/
theorem join_of_head (hne : segment ≠ "") (hq : q.segments.head? ≠ some "") :
    (Path.mk (stem ++ [segment])).join q = ⟨stem ++ [segment] ++ q.segments⟩ := by
  have hrelative : q.isAbsolute = false := by
    unfold isAbsolute
    split
    · next rest heq => exact absurd (congrArg List.head? heq) hq
    · rfl
  unfold join
  rw [hrelative, if_neg Bool.false_ne_true, if_neg (by simpa using hne)]

end MapAudit.Path

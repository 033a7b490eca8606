import Mathlib.Data.List.Induction
import Mathlib.Data.List.Nodup

/-! # First mentions

    Where something may be given more than once and counts once, it counts at its first place.
    The list of what counts then has the elements of the list that is given, none of them
    twice, in the order in which they are mentioned first.

    The induction adds an element at the end: it is dropped if it stands before already, and
    otherwise it is mentioned first behind all others.
-/

namespace MapAudit

variable {α : Type} [BEq α]

/-- **First mentions** in a list: each element once, in the order in which they occur
    first. -/
structure FirstMentions (given chosen : List α) : Prop where
  /-- Nothing is chosen twice. -/
  once : chosen.Nodup
  /-- What is chosen is what is given. -/
  mem_iff : ∀ x, x ∈ chosen ↔ x ∈ given
  /-- What is given first comes first. -/
  inOrder : chosen.Pairwise fun x y => given.idxOf x < given.idxOf y

variable [LawfulBEq α]

/-- What comes last in a list is dropped if it stands before already. -/
theorem eraseDups_concat (l : List α) (x : α) :
    (l ++ [x]).eraseDups = if x ∈ l then l.eraseDups else l.eraseDups ++ [x] := by
  rw [List.eraseDups_append, List.removeAll]
  by_cases hx : x ∈ l <;> simp [hx, List.eraseDups_cons]

theorem firstMentions_eraseDups (l : List α) : FirstMentions l l.eraseDups := by
  induction l using List.reverseRecOn with
  | nil => exact ⟨List.nodup_nil, fun _ => Iff.rfl, List.Pairwise.nil⟩
  | append_singleton l x ih =>
    -- elements that stood there before stay where they were
    have hkept : l.eraseDups.Pairwise fun y z => (l ++ [x]).idxOf y < (l ++ [x]).idxOf z := by
      refine ih.inOrder.imp_of_mem fun hy hz h => ?_
      rwa [List.idxOf_append_of_mem ((ih.mem_iff _).1 hy),
        List.idxOf_append_of_mem ((ih.mem_iff _).1 hz)]
    rw [eraseDups_concat]
    split
    · next hold =>
      refine ⟨ih.once, ?_, hkept⟩
      intro y
      rw [ih.mem_iff, List.mem_append, List.mem_singleton]
      exact ⟨Or.inl, fun h => h.elim id fun h => h ▸ hold⟩
    · next hnew =>
      refine ⟨?_, ?_, ?_⟩
      · refine List.nodup_append.2 ⟨ih.once, List.nodup_singleton x, ?_⟩
        intro y hy z hz
        rw [List.mem_singleton.1 hz]
        exact fun h => hnew (h ▸ (ih.mem_iff y).1 hy)
      · intro y
        rw [List.mem_append, List.mem_append, ih.mem_iff]
      · refine List.pairwise_append.2 ⟨hkept, List.pairwise_singleton _ _, ?_⟩
        intro y hy z hz
        have hmem := (ih.mem_iff y).1 hy
        have hbefore : l.idxOf y < l.length := List.idxOf_lt_length_iff.2 hmem
        rw [List.mem_singleton.1 hz, List.idxOf_append_of_mem hmem,
          List.idxOf_append_of_notMem hnew]
        omega

end MapAudit

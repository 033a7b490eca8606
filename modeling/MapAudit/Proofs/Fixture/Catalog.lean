import MapAudit.Fixture.Catalog
import MapAudit.Proofs.Fixture.Validity
import MapAudit.Proofs.Verification.Places

/-! # The built-in fixtures are accepted

    In each text of a built-in fixture the literals of its probes are matched once. To see
    this, the text is spelled out: the texts it is put together from are turned into their
    characters, and the literals are counted there.
-/

namespace MapAudit.Fixture

/-! ### Spelling -/

/-- The characters of a text. -/
def Spells (s : String) (cs : List Char) : Prop :=
  s = String.ofList cs

theorem Spells.append {s t : String} {as bs : List Char} (hs : Spells s as) (ht : Spells t bs) :
    Spells (s ++ t) (as ++ bs) := by
  unfold Spells at *
  rw [hs, ht, String.ofList_append]

theorem Spells.toList {s : String} {cs : List Char} (h : Spells s cs) : s.toList = cs := by
  rw [h, String.toList_ofList]

/-! ### Texts -/

/-- **Text for probes**: it is short enough, the probes originate from its path, and each is
    matched once in it. -/
def TextFor (path : String) (probes : List Probe) (source : String) : Prop :=
  Text.Addressable source.toList ∧
    ∀ p ∈ probes, p.origin = path ∧ literalCount p source = 1

theorem textFor_of_spells {path source : String} {probes : List Probe} {cs : List Char}
    (hspells : Spells source cs)
    (h : Text.Addressable cs ∧
      ∀ p ∈ probes, p.origin = path ∧ Text.countMatches p.literal.toList cs = 1) :
    TextFor path probes source := by
  unfold TextFor literalCount
  rw [hspells.toList]
  exact h

variable {fixture : Fixture} {path source : String} {probes : List Probe}

/-- The probes of a text are matched once in the file with the text. -/
theorem TextFor.matched (h : TextFor path probes source)
    (hfile : fixture.file? path = some ⟨path, source⟩) :
    ∀ p ∈ probes, ∃ file, fixture.file? p.origin = some file ∧
      literalCount p file.source = 1 := by
  intro p hp
  obtain ⟨hpath, hcount⟩ := h.2 p hp
  exact ⟨⟨path, source⟩, hpath ▸ hfile, hcount⟩

/-! ### The chains -/

/-- The probes of a chain by their files. -/
def entryProbes : List Probe := [⟨"a0", "a.js"⟩, ⟨"a1", "a.js"⟩, ⟨"a2", "a.js"⟩]

@[inherit_doc entryProbes]
def middleProbes : List Probe := [⟨"b0", "b.js"⟩, ⟨"b1", "b.js"⟩, ⟨"b2", "b.js"⟩]

@[inherit_doc entryProbes]
def lastProbes : List Probe := [⟨"c0", "c.js"⟩, ⟨"c1", "c.js"⟩, ⟨"c2", "c.js"⟩]

theorem textFor_es6Entry : TextFor "a.js" entryProbes es6Entry :=
  textFor_of_spells (.append (.append (.append (.append rfl rfl) rfl) rfl) rfl)
    (by decide +kernel)

theorem textFor_es6Middle : TextFor "b.js" middleProbes es6Middle :=
  textFor_of_spells (.append (.append (.append rfl rfl) rfl) rfl) (by decide +kernel)

theorem textFor_es6Last : TextFor "c.js" lastProbes es6Last :=
  textFor_of_spells (.append (.append rfl rfl) rfl) (by decide +kernel)

theorem textFor_commonjsEntry : TextFor "a.js" entryProbes commonjsEntry :=
  textFor_of_spells (.append (.append (.append (.append rfl rfl) rfl) rfl) rfl)
    (by decide +kernel)

theorem textFor_commonjsMiddle : TextFor "b.js" middleProbes commonjsMiddle :=
  textFor_of_spells (.append (.append (.append rfl rfl) rfl) rfl) (by decide +kernel)

theorem textFor_commonjsLast : TextFor "c.js" lastProbes commonjsLast :=
  textFor_of_spells (.append (.append rfl rfl) rfl) (by decide +kernel)

theorem textFor_tsEntry : TextFor "a.ts" tsProbes tsEntry :=
  textFor_of_spells (.append (.append (.append (.append (.append (.append (.append rfl rfl) rfl)
    rfl) rfl) rfl) rfl) rfl) (by decide +kernel)

/-- A chain over three texts for its probes is accepted. -/
theorem accepted_chain (variant : Variant) {entry middle last : String}
    (hentry : TextFor "a.js" entryProbes entry) (hmiddle : TextFor "b.js" middleProbes middle)
    (hlast : TextFor "c.js" lastProbes last) :
    (ofFiles variant [⟨"a.js", entry⟩, ⟨"b.js", middle⟩, ⟨"c.js", last⟩] chainProbes).validate =
        .ok () ∧
      (ofFiles variant [⟨"a.js", entry⟩, ⟨"b.js", middle⟩, ⟨"c.js", last⟩]
        chainProbes).Addressable := by
  have hsplit : chainProbes = entryProbes ++ middleProbes ++ lastProbes := rfl
  have hnodup : (chainProbes.map Probe.id).Nodup := by decide
  refine ⟨validate_eq_ok_iff.2 ⟨List.cons_ne_nil _ _, hnodup, ?_⟩, ?_⟩
  · intro p hp
    have hprobe : p ∈ entryProbes ++ middleProbes ++ lastProbes := hsplit ▸ hp
    rcases List.mem_append.1 hprobe with hprobe | hprobe
    · rcases List.mem_append.1 hprobe with hprobe | hprobe
      · exact hentry.matched rfl p hprobe
      · exact hmiddle.matched rfl p hprobe
    · exact hlast.matched rfl p hprobe
  · exact List.forall_mem_cons.2 ⟨hentry.1, List.forall_mem_cons.2 ⟨hmiddle.1,
      List.forall_mem_singleton.2 hlast.1⟩⟩

/-- **Accepted**: validation accepts the fixture of every variant, and its files are short
    enough. -/
theorem accepted_ofVariant (v : Variant) :
    (ofVariant v).validate = .ok () ∧ (ofVariant v).Addressable := by
  cases v with
  | commonjs =>
    exact accepted_chain _ textFor_commonjsEntry textFor_commonjsMiddle textFor_commonjsLast
  | es6 => exact accepted_chain _ textFor_es6Entry textFor_es6Middle textFor_es6Last
  | ts =>
    refine ⟨validate_eq_ok_iff.2 ⟨List.cons_ne_nil _ _, by decide, ?_⟩,
      List.forall_mem_singleton.2 textFor_tsEntry.1⟩
    exact textFor_tsEntry.matched rfl

end MapAudit.Fixture

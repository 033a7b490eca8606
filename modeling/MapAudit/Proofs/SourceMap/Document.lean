import MapAudit.Proofs.Json.Parser
import MapAudit.Proofs.SourceMap.Shift
import Mathlib.Data.Option.Basic

/-! # Editing the text of a document

    A text with a source map holds a plain document. It can be edited right behind the
    quotation mark that opens its mappings: semicolons that are put in there move all
    mappings down, and nothing else in the document changes.
-/

namespace MapAudit

/-! ### Accepted documents -/

theorem SourceMap.parse_of_plain {text : String} {body : Document.Body}
    (h : Document.parse text = .ok (.plain body)) : SourceMap.parse text = body.toSourceMap := by
  simp only [SourceMap.parse, h, bind, Except.bind, Document.toSourceMap]

/-- **Accepted documents** are plain. -/
theorem SourceMap.parse_eq_ok_iff {text : String} {m : SourceMap} :
    SourceMap.parse text = .ok m ↔
      ∃ body, Document.parse text = .ok (.plain body) ∧ body.toSourceMap = .ok m := by
  constructor
  · intro h
    cases hdocument : Document.parse text with
    | error e =>
      simp only [SourceMap.parse, hdocument, bind, Except.bind] at h
      exact absurd h (by simp)
    | ok document =>
      simp only [SourceMap.parse, hdocument, bind, Except.bind] at h
      cases document with
      | plain body => exact ⟨body, rfl, h⟩
      | sectioned sections =>
        simp only [Document.toSourceMap, bind, Except.bind] at h
        split at h <;> exact absurd h (by simp [throw, throwThe, MonadExceptOf.throw])
      | «scoped» body =>
        simp only [Document.toSourceMap, bind, Except.bind] at h
        split at h <;> exact absurd h (by simp [throw, throwThe, MonadExceptOf.throw])
  · rintro ⟨body, hdocument, hbody⟩
    rw [SourceMap.parse_of_plain hdocument, hbody]

namespace Document

variable {room : Nat} {key other : String} {front back : List (String × Json)} {v v' : Json}

/-! ### Plain documents -/

/-- The body of a plain document. -/
def plainBody? : Document → Option Body
  | .plain body => some body
  | _ => none

theorem plainBody?_eq_some_iff {document : Document} {body : Body} :
    document.plainBody? = some body ↔ document = .plain body := by
  cases document <;> simp [plainBody?]

theorem parse_eq_plain_iff {text : String} {body : Body} :
    parse text = .ok (.plain body) ↔ (parse text).toOption.bind plainBody? = some body := by
  cases parse text with
  | error e => simp [Except.toOption]
  | ok document => simp [Except.toOption, plainBody?_eq_some_iff]

deriving instance DecidableEq for Body

instance (text : String) (body : Body) : Decidable (parse text = .ok (.plain body)) :=
  decidable_of_iff _ parse_eq_plain_iff.symm

/-! ### Exchanging the value of a member -/

theorem valuesOf_exchange_of_ne (h : other ≠ key) :
    valuesOf other (front ++ (key, v) :: back) = valuesOf other (front ++ (key, v') :: back) := by
  simp [valuesOf, List.filter_append, h.symm]

theorem valuesOf_exchange_self :
    valuesOf key (front ++ (key, v) :: back) = valuesOf key front ++ v :: valuesOf key back := by
  simp [valuesOf, List.filter_append]

/-- Other members are read as they were. -/
theorem optional?_exchange_of_ne {α : Type} (shape : Shape α) (h : other ≠ key) :
    optional? shape other room (front ++ (key, v) :: back) =
      optional? shape other room (front ++ (key, v') :: back) := by
  have hvalues : valuesOf other (front ++ (key, v) :: back) =
      valuesOf other (front ++ (key, v') :: back) :=
    valuesOf_exchange_of_ne h
  rw [optional?, optional?, hvalues]

/-- A text that is read for a key is that of its only member. -/
theorem optional?_text_exchange {found : Option String}
    (h : optional? text? key room (front ++ (key, v) :: back) = some found) (hv : v ≠ .null) :
    ∃ s, v = .string s ∧ found = some s ∧
      ∀ s', optional? text? key room (front ++ (key, .string s') :: back) = some (some s') := by
  simp only [optional?, valuesOf_exchange_self] at h ⊢
  -- a second member with the key, in front or behind, would have been refused
  cases hfront : valuesOf key front with
  | cons w ws =>
    rw [hfront] at h
    cases ws <;> exact absurd h (by simp)
  | nil =>
    cases hback : valuesOf key back with
    | cons w ws =>
      rw [hfront, hback] at h
      exact absurd h (by simp)
    | nil =>
      rw [hfront, hback] at h
      cases v with
      | null => exact absurd rfl hv
      | string s => exact ⟨s, rfl, (Option.some.inj h).symm, fun _ => rfl⟩
      | _ => exact absurd h (by simp [nullOr?, text?])

/-- The value of a member that documents know need not be sound. -/
theorem all_known_exchange (h : knownKeys.contains key = true) :
    ((front ++ (key, v) :: back).all fun m => knownKeys.contains m.1 || m.2.isSound room) =
      (front ++ (key, v') :: back).all fun m => knownKeys.contains m.1 || m.2.isSound room := by
  simp only [List.all_append, List.all_cons, h, Bool.true_or]

/-- **Other mappings** in a plain document: everything else is read as it was. -/
theorem ofJson?_exchange {body : Body}
    (h : ofJson? room (.object (front ++ ("mappings", v) :: back)) = some (.plain body))
    (hv : v ≠ .null) :
    v = .string body.mappings ∧
      ∀ s', ofJson? room (.object (front ++ ("mappings", .string s') :: back)) =
        some (.plain { body with mappings := s' }) := by
  cases room with
  | zero =>
    have hnone : none = some (plain body) := h
    exact absurd hnone (by simp)
  | succ room =>
    rw [ofJson?.eq_def] at h
    obtain ⟨_, hsound, h⟩ := Option.bind_eq_some_iff.1 h
    simp only [Option.bind_eq_bind, Option.bind_eq_some_iff] at h
    -- every key has been read; only `mappings` looks at the member that is exchanged
    obtain ⟨_, hversion, _, hfile, sources, hsources, root, hroot, _, hcontent,
      sections, hsections, names, hnames, ranges, hranges, mappings, hmappings, _, hignored,
      _, hoffsets, _, hpaths, scopes, hscopes, _, hid, _, hid', hbody⟩ := h
    obtain ⟨s, rfl, rfl, hexchange⟩ := optional?_text_exchange hmappings hv
    cases sections with
    | some sections => exact absurd hbody (by simp)
    | none =>
      cases scopes with
      | some scopes => exact absurd hbody (by simp)
      | none =>
        obtain rfl := Document.plain.inj (Option.some.inj hbody)
        refine ⟨rfl, ?_⟩
        intro s'
        have hother : ∀ {α : Type} (shape : Shape α) (other : String), other ≠ "mappings" →
            optional? shape other room (front ++ ("mappings", .string s') :: back) =
              optional? shape other room (front ++ ("mappings", .string s) :: back) :=
          fun shape _ hne => optional?_exchange_of_ne shape hne
        have hall : ((front ++ ("mappings", .string s') :: back).all fun m =>
              knownKeys.contains m.1 || m.2.isSound room) =
            (front ++ ("mappings", .string s) :: back).all fun m =>
              knownKeys.contains m.1 || m.2.isSound room :=
          all_known_exchange (by decide)
        rw [ofJson?.eq_def]
        refine Option.bind_eq_some_iff.2 ⟨(), by rw [hall]; exact hsound, ?_⟩
        simp (disch := decide) only [hother, hversion, hfile, hsources, hroot, hcontent,
          hsections, hnames, hranges, hexchange, hignored, hoffsets, hpaths, hscopes, hid, hid',
          Option.bind_eq_bind, Option.bind_some]
        rfl

theorem exists_members_of_ofJson? {document : Document} (h : ofJson? room v = some document) :
    ∃ members, v = .object members := by
  cases v with
  | object members => exact ⟨members, rfl⟩
  | _ =>
    -- without members there is no document, whatever the room
    have hnone : none = some document := by cases room <;> exact h
    exact absurd hnone (by simp)

/-! ### Text -/

theorem parse_eq_ok_iff {text : String} {document : Document} :
    parse text = .ok document ↔
      ∃ rest v, dropHeader text.toList = .ok rest ∧ Json.scan? rest = some v ∧
        ofJson? Json.maxNesting v = some document := by
  unfold parse
  cases hheader : dropHeader text.toList with
  | error e => simp [bind, Except.bind]
  | ok rest =>
    simp only [bind, Except.bind]
    constructor
    · intro h
      split at h
      · next found hfound =>
        obtain rfl := Except.ok.inj h
        obtain ⟨v, hv, hdocument⟩ := Option.bind_eq_some_iff.1 hfound
        exact ⟨rest, v, rfl, hv, hdocument⟩
      · exact absurd h (by simp [throw, throwThe, MonadExceptOf.throw])
    · rintro ⟨_, v, hrest, hv, hdocument⟩
      obtain rfl := Except.ok.inj hrest
      rw [hv, Option.bind_some, hdocument]
      rfl

variable {head rest tail : List Char}

theorem skipHeader_append {afterReturn : Bool} (h : skipHeader afterReturn head = .ok rest)
    (hrest : rest ≠ []) (tail : List Char) :
    skipHeader afterReturn (head ++ tail) = .ok (rest ++ tail) := by
  induction head generalizing afterReturn with
  | nil => exact absurd (Except.ok.inj h).symm hrest
  | cons c cs ih =>
    simp only [List.cons_append, skipHeader] at h ⊢
    split at h
    · next hc =>
      obtain rfl := Except.ok.inj h
      rw [if_pos hc]
      rfl
    · next hc =>
      split at h
      · exact absurd h (by simp)
      · next hreturn =>
        rw [if_neg hc, if_neg hreturn]
        exact ih h

/-- What comes after the header line goes on with what is put behind it. -/
theorem dropHeader_append (h : dropHeader head = .ok rest) (hrest : rest ≠ [])
    (tail : List Char) : dropHeader (head ++ tail) = .ok (rest ++ tail) := by
  cases head with
  | nil => exact absurd (Except.ok.inj h).symm hrest
  | cons c cs =>
    simp only [List.cons_append, dropHeader] at h ⊢
    split at h
    · next hc =>
      rw [if_pos hc]
      exact skipHeader_append h hrest tail
    · next hc =>
      obtain rfl := Except.ok.inj h
      rw [if_neg hc]
      rfl

/-- **Opening of the mappings**: a beginning of the text of a document, up to the quotation
    mark that opens the text of its mappings. -/
def OpensMappings (head : List Char) : Prop :=
  ∃ rest tokens done, dropHeader head = .ok rest ∧
    Json.readAll .gap rest = some (.string (some []), tokens) ∧
    tokens.foldlM Json.advance (.value []) = some (.value [.object done (some "mappings")])

/-- **Semicolons put in** behind the opening of the mappings move the mappings of a plain
    document down. -/
theorem parse_emptyLines {head tail : String} {body : Body} (hopens : OpensMappings head.toList)
    (h : parse (head ++ tail) = .ok (.plain body)) (k : Nat) :
    parse (head ++ Segments.emptyLines k ++ tail) = .ok (.plain (body.below k)) := by
  obtain ⟨rest, tokens, done, hheader, hread, hopen⟩ := hopens
  have hrest : rest ≠ [] := by
    rintro rfl
    exact absurd hread (by simp [Json.readAll])
  obtain ⟨all, v, hall, hscan, hdocument⟩ := parse_eq_ok_iff.1 h
  rw [String.toList_append, dropHeader_append hheader hrest] at hall
  obtain rfl := Except.ok.inj hall
  obtain ⟨later, value, rfl, hvalue, hplain⟩ := Json.scan?_plain hread hopen hscan
  -- the object of a document has a member with the text of its mappings
  obtain ⟨members, hmembers⟩ := exists_members_of_ofJson? hdocument
  obtain ⟨front, back, rfl, hobject⟩ := Json.exists_members_of_objectOf hmembers
  rw [hmembers] at hdocument
  obtain ⟨hmappings, hexchange⟩ := ofJson?_exchange hdocument hvalue
  have hsemicolons : ∀ c ∈ List.replicate k ';', Json.IsPlain c := by
    intro c hc
    obtain rfl := List.eq_of_mem_replicate hc
    decide
  have hscan' := hplain body.mappings (List.replicate k ';') hmappings hsemicolons
  rw [hobject] at hscan'
  refine parse_eq_ok_iff.2 ⟨_, _, ?_, hscan', hexchange _⟩
  rw [String.toList_append, String.toList_append, Segments.emptyLines, String.toList_ofList,
    List.append_assoc, dropHeader_append hheader hrest]

end Document

end MapAudit

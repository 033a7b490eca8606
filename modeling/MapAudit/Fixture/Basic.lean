import MapAudit.Text.Printable
import MapAudit.Text.Search

/-! # Fixtures

    A fixture is a small program in several files together with the probes that
    are looked for in it. A probe is an identifier that stands, between double
    quotes, exactly once in the file it originates from.

    The variant of a fixture says how its files refer to each other, and with it
    whether they are bundled. The name of a variant is accepted in any mixture
    of upper and lower case; only the ASCII letters have a case here.

    The files of a fixture are in order, and the first one is the entry file.
    No two files have the same path.
-/

namespace MapAudit

/-! ## Variants -/

/-- **Variant** of a fixture. -/
inductive Variant where
  /-- Three files linked by `require` and `exports`. -/
  | commonjs
  /-- Three files linked by `import` and `export`. -/
  | es6
  /-- One TypeScript file that needs helper code at run time. -/
  | ts
  deriving DecidableEq, Repr

/-- A name that no variant has. -/
structure UnknownVariant where
  /-- The name. -/
  name : String
  deriving DecidableEq, Repr

namespace Variant

/-- All variants, in the order in which they are launched. -/
def all : List Variant :=
  [.commonjs, .es6, .ts]

/-- The name of a variant. -/
def name : Variant → String
  | .commonjs => "commonjs"
  | .es6 => "es6"
  | .ts => "ts"

/-- Whether the files of a variant are bundled into one. -/
def bundles : Variant → Bool
  | .commonjs | .es6 => true
  | .ts => false

instance : ToString Variant where
  toString := name

/-- Whether two texts differ at most in the case of ASCII letters. -/
def sameIgnoringCase (a b : String) : Bool :=
  a.toList.map Char.toLower == b.toList.map Char.toLower

/-- The variant with a name. -/
def ofName? (name : String) : Option Variant :=
  all.find? fun v => sameIgnoringCase v.name name

/-- The variant with a name, or the reason why there is none. -/
def parse (name : String) : Except UnknownVariant Variant :=
  match ofName? name with
  | some v => .ok v
  | none => .error ⟨name⟩

end Variant

/-- The message of the error. -/
def UnknownVariant.message (e : UnknownVariant) : String :=
  "unknown variant " ++ Text.quoted e.name ++ " (expected one of "
    ++ ", ".intercalate (Variant.all.map Variant.name) ++ ")"

/-! ## Files and probes -/

/-- **Fixture file**. -/
structure FixtureFile where
  /-- The path of the file, relative to the directory the fixture is built in. -/
  path : String
  /-- The text of the file. -/
  source : String
  deriving DecidableEq, Repr

namespace FixtureFile

/-- Puts a file into a list of files. A file with the same path gives up its
    place to it; without such a file it goes to the end. -/
def put (f : FixtureFile) : List FixtureFile → List FixtureFile
  | [] => [f]
  | g :: rest => if g.path = f.path then f :: rest else g :: put f rest

/-- A list of files in which every path stands once: at its first place, and
    with its last source. -/
def merge (files : List FixtureFile) : List FixtureFile :=
  files.foldl (fun done f => put f done) []

theorem mem_paths_put {f : FixtureFile} {l : List FixtureFile} {p : String} :
    p ∈ (put f l).map path ↔ p = f.path ∨ p ∈ l.map path := by
  induction l with
  | nil => simp [put]
  | cons g rest ih =>
    simp only [put]
    split
    · rename_i h
      simp [h]
    · rw [List.map_cons, List.mem_cons, ih, List.map_cons, List.mem_cons, or_left_comm]

theorem nodup_put {f : FixtureFile} {l : List FixtureFile} (h : (l.map path).Nodup) :
    ((put f l).map path).Nodup := by
  induction l with
  | nil => simp [put]
  | cons g rest ih =>
    rw [List.map_cons, List.nodup_cons] at h
    simp only [put]
    split
    · rename_i hpath
      rw [List.map_cons, List.nodup_cons, ← hpath]
      exact h
    · rename_i hpath
      rw [List.map_cons, List.nodup_cons, mem_paths_put, not_or]
      exact ⟨⟨hpath, h.1⟩, ih h.2⟩

theorem nodup_foldl_put (files done : List FixtureFile) (h : (done.map path).Nodup) :
    ((files.foldl (fun done f => put f done) done).map path).Nodup := by
  induction files generalizing done with
  | nil => exact h
  | cons f rest ih => exact ih _ (nodup_put h)

theorem nodup_merge (files : List FixtureFile) : ((merge files).map path).Nodup :=
  nodup_foldl_put files [] List.nodup_nil

end FixtureFile

/-- **Probe**: an identifier whose place is followed through the build. -/
structure Probe where
  /-- The identifier. -/
  id : String
  /-- The path of the file it stands in. -/
  origin : String
  deriving DecidableEq, Repr

/-- The text that is looked for: the identifier between double quotes. -/
def Probe.literal (p : Probe) : String :=
  "\"" ++ p.id ++ "\""

/-- **Fixture**. -/
structure Fixture where
  /-- The variant the fixture belongs to. -/
  variant : Variant
  /-- The files, entry file first. -/
  files : List FixtureFile
  /-- The probes, in the order in which they are checked. -/
  probes : List Probe
  /-- No path stands twice. -/
  distinct : (files.map FixtureFile.path).Nodup

namespace Fixture

/-- The fixture with the given files and probes. A path that is given again
    keeps its place and takes the new source. -/
def ofFiles (variant : Variant) (files : List FixtureFile) (probes : List Probe) :
    Fixture where
  variant := variant
  files := FixtureFile.merge files
  probes := probes
  distinct := FixtureFile.nodup_merge files

/-- The entry file. -/
def entry? (fixture : Fixture) : Option FixtureFile :=
  fixture.files.head?

/-- The file with a path. -/
def file? (fixture : Fixture) (path : String) : Option FixtureFile :=
  fixture.files.find? (·.path = path)

/-- The paths of the files. -/
def paths (fixture : Fixture) : List String :=
  fixture.files.map FixtureFile.path

end Fixture

end MapAudit

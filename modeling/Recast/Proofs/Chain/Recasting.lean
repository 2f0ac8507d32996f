import Recast.Chain.Basic
import Recast.Proofs.Block.Nesting
import Recast.Proofs.Chain.Insight
import Recast.Proofs.Text.Lines

/-!
# Proofs/Chain/Recasting — whole programs through a chain

A chain whose rules are understood makes each line of a program into the line that the target has
for its shape, and the matcher then puts the closing tokens behind the block statements. So what a
chain makes of a program is the program's text in the style of the target (`closeBlocks_runRules`).
-/

namespace Recast

open Text Source

/-! ## Lines of outlines -/

theorem Source.textLines_ne_nil (style : Style) (program : Program) :
    style.textLines (program.outline 0) ≠ [] := by
  obtain ⟨line, more, heq, -⟩ := Closer.exists_body_outline_eq program 0
  rw [heq, Closer.textLines_cons_line]
  exact List.cons_ne_nil _ _

/-- A line of a text is one that the outline has, or the end of a block statement. -/
theorem Source.mem_textLines {style : Style} {outline : List (Nat × Entry)} {text : List Char}
    (h : text ∈ style.textLines outline) : ∃ depth,
      (∃ line, text = indentation depth ++ style.write line) ∨
        ∃ head token, style.close head = some token ∧ text = indentation depth ++ token := by
  obtain ⟨⟨depth, entry⟩, -, hentry⟩ := List.mem_filterMap.mp h
  cases entry with
  | line line => exact ⟨depth, .inl ⟨line, (Option.some.inj hentry).symm⟩⟩
  | close head =>
    obtain ⟨token, htoken, htext⟩ := Option.map_eq_some_iff.mp hentry
    exact ⟨depth, .inr ⟨head, token, htoken, htext.symm⟩⟩

/-- Two styles, line by line. -/
theorem Source.forall₂_textLines {style style' : Style} {related : List Char → List Char → Prop} :
    ∀ {outline : List (Nat × Entry)}, (∀ depth line, (depth, .line line) ∈ outline →
      related (indentation depth ++ style.write line) (indentation depth ++ style'.write line)) →
    (∀ depth head, List.Forall₂ related (style.textLines [(depth, .close head)])
      (style'.textLines [(depth, .close head)])) →
    List.Forall₂ related (style.textLines outline) (style'.textLines outline)
  | [], _, _ => .nil
  | (depth, .line line) :: more, hline, hclose => .cons (hline depth line (by simp))
      (forall₂_textLines (fun d l hl => hline d l (List.mem_cons_of_mem _ hl)) hclose)
  | (depth, .close head) :: more, hline, hclose => by
      rw [← List.singleton_append, Closer.textLines_append, Closer.textLines_append]
      exact List.rel_append (hclose depth head)
        (forall₂_textLines (fun d l hl => hline d l (List.mem_cons_of_mem _ hl)) hclose)

/-! ## Chains -/

namespace Chain

/-- **The rules are understood**, and make each shape of the source into the stencil. -/
structure Writes (chain : Chain) (insights : List Insight) (write : Shape → Stencil) : Prop where
  into : List.Forall₂ Insight.Into chain.rules insights
  run : ∀ shape, Insight.run chain.rules insights shape.kinds shape.inPython.stencil =
    some (write shape)

variable {chain : Chain} {insights : List Insight} {write : Shape → Stencil} {style : Style}
  {closer : Closer}

/-- The rules over the text of a program. -/
theorem Writes.runRules_text (h : chain.Writes insights write)
    (hwrite : ∀ line, style.write line = (write line.shape).fill (fillers line.values))
    (program : Program) :
    chain.runRules (program.text python) = joinLines
      (style.unclosed.textLines (program.outline 0)) := by
  refine Rule.applyAll_joinLines (Insight.shuns_lineFeed_of_into h.into)
    (forall₂_textLines (fun depth line _ => ?_) fun _ _ => .nil)
  rw [show style.unclosed.write line = style.write line from rfl, hwrite line,
    show python.write line = line.shape.inPython.fill (fillers line.values) from rfl,
    ← Phrase.fill_stencil]
  exact Insight.runs_of_run h.into line.fits (h.run line.shape)

/-- The closing tokens of a program's text. -/
theorem closeBlocks_joinLines (hcloser : chain.closer = some closer) (hsuits : style.Suits closer)
    (hinline : ∀ line, '\n' ∉ style.write line) (program : Program) :
    chain.closeBlocks .stack (joinLines (style.unclosed.textLines (program.outline 0))) =
      program.text style := by
  have hlines : ∀ line ∈ style.unclosed.textLines (program.outline 0), '\n' ∉ line := by
    intro text htext
    obtain ⟨depth, ⟨line, rfl⟩ | ⟨head, token, hnone, -⟩⟩ := mem_textLines htext
    · exact not_mem_indentation (by decide) (hinline line) depth
    · exact absurd hnone (by simp [Style.unclosed])
  rw [closeBlocks, hcloser]
  change joinLines (closer.closeStack [] (lines (joinLines _))) = _
  rw [lines_joinLines hlines (textLines_ne_nil _ program), Closer.closeStack_outline hsuits]
  rfl

/-- **What a chain makes of a program, before it is wrapped.** -/
theorem Writes.closeBlocks_runRules (h : chain.Writes insights write)
    (hwrite : ∀ line, style.write line = (write line.shape).fill (fillers line.values))
    (hcloser : chain.closer = some closer) (hsuits : style.Suits closer)
    (hinline : ∀ line, '\n' ∉ style.write line) (program : Program) :
    chain.closeBlocks .stack (chain.runRules (program.text python)) = program.text style := by
  rw [h.runRules_text hwrite, closeBlocks_joinLines hcloser hsuits hinline]

end Chain

end Recast

import Recast.Chain.Catalog
import Recast.Proofs.Block.Balance
import Recast.Proofs.Chain.ToJavaScript

/-!
# Proofs/Chain/Braced — the chains into brace languages

Nine chains lead from Python into languages whose blocks stand between braces. What each of them
makes of the lines of a program is worked out once for every shape of lines, and then looked over
(`braced_of_mem`): every header opens one block and every continuation closes one and opens the
next.
-/

namespace Recast

open Form Pattern Text Source

/-! ## Chains that are looked over -/

/-- Every shape of lines. -/
def Source.shapes : List Shape :=
  [.assignName, .assignNumber, .print, .give, .repeatWhile, .count1, .count2, .count3,
    .each, .define,
    .branch, .elseBranch, .otherwise]

theorem Source.mem_shapes (shape : Shape) : shape ∈ shapes := by cases shape <;> decide

namespace Chain

/-- What the rules make of a shape, if that is known. -/
def stencil? (chain : Chain) (insights : List Insight) (shape : Shape) : Option Stencil :=
  Insight.run chain.rules insights shape.kinds shape.inPython.stencil

/-- **The chain leads into a brace language**: what its rules make of each shape is known, and a
brace language may write it so, within so many braces of the wrapper. -/
structure Braced (chain : Chain) (insights : List Insight) (depth : Nat) : Prop where
  into : List.Forall₂ Insight.Into chain.rules insights
  closer : chain.closer = some .brace
  shapes : shapes.all (fun shape => (chain.stencil? insights shape).any shape.isBraced) = true
  wrapper : chain.wrapper.all (Wrapper.blocks depth) = true

variable {chain : Chain} {insights : List Insight} {depth : Nat}

/-- What the chain makes of the shapes, as a whole. -/
theorem Braced.exists_writes (h : chain.Braced insights depth) : ∃ write,
    chain.Writes insights write ∧ ∀ shape : Shape, shape.isBraced (write shape) = true := by
  have hknown : ∀ shape, ∃ stencil, chain.stencil? insights shape = some stencil ∧
      shape.isBraced stencil = true := fun shape =>
    (Option.any_eq_true _ _).mp (List.all_eq_true.mp h.shapes shape (mem_shapes shape))
  choose write hwrite hshape using hknown
  exact ⟨write, ⟨h.into, hwrite⟩, hshape⟩

/-- **A chain into a brace language writes balanced braces.** -/
theorem Braced.balanced (h : chain.Braced insights depth) (program : Program) :
    Balanced (chain.transform .stack (program.text python)) := by
  obtain ⟨write, hwrites, hshape⟩ := h.exists_writes
  have hstyle : ∀ line, (Style.braced write).write line =
      (write line.shape).fill (fillers line.values) := fun _ => rfl
  have hbraces := braced_braces hshape
  have hsuits : (Style.braced write).Suits .brace :=
    suits_brace hstyle hshape (fun _ => rfl) fun condition => (hbraces.branch condition).2
  have hbody := balanced_text hbraces program
  rw [transform, hwrites.closeBlocks_runRules hstyle h.closer hsuits (not_mem_write hstyle hshape),
    wrapBody]
  cases hw : chain.wrapper with
  | none => exact .of_braces hbody
  | some wrapper => exact Wrapper.balanced_wrap (by simpa [hw] using h.wrapper) hbody

end Chain

/-! ## The insights into the rules of each chain -/

namespace Insight

def typeScript : List Insight :=
  prints ++ assignTexts ++ [assignInt, assignFloat] ++ assignTruths ++
  [assignNone, assignList, assignAny, definition, returnLine] ++ branches ++ countedLoops ++
  [forEach, appendOpen, len] ++ valueMethods ++ logic ++ [comment]

def java : List Insight :=
  prints ++ assignTexts ++ [assignInt, assignFloat] ++ assignTruths ++
  [assignNone, assignList, definition, returnLine] ++ branches ++ countedLoops ++
  [forEach, appendOpen, len] ++ valueMethods ++ logic ++ [comment]

def cpp : List Insight :=
  prints ++ assignTexts ++ [assignInt, assignFloat] ++ assignTruths ++
  [assignList, definition, returnLine] ++ branches ++ countedLoops ++
  [forEach, appendOpen, len] ++ logic ++ [comment]

def c : List Insight :=
  prints ++ assignTexts ++ [assignInt, assignFloat] ++ assignTruths ++
  [assignNone, assignList, definition, returnLine] ++ branches ++ countedLoops ++ [len] ++ logic ++
  [comment]

def go : List Insight :=
  prints ++ assignTexts ++ [assignInt, assignFloat] ++ assignTruths ++ [assignList, definition] ++
  branches ++ countedLoops ++ [forEach, appendTo] ++ logic ++ [comment]

def php : List Insight :=
  prints ++ [assignAny, definition, returnLine] ++ branches ++ countedLoops ++
  [forEach, appendTo, len] ++ valueMethodsOn ++ logic ++ [comment]

def swift : List Insight :=
  prints ++ assignTexts ++ [assignInt, assignFloat] ++ assignTruths ++
  [assignNone, assignList, definition] ++ branches ++ countedLoops ++ [forEachLine, len] ++
  valueMethods ++ logic ++ [comment]

end Insight

namespace Chain

/-- The chains into brace languages, each with the insights into its rules and the number of braces
that its wrapper holds open around a program. -/
def braceChains : List (Chain × List Insight × Nat) :=
  [ (toJavaScript, Insight.javaScript, 0),
    (toTypeScript, Insight.typeScript, 0),
    (toJava, Insight.java, 2),
    (toCpp, Insight.cpp, 1),
    (toC, Insight.c, 1),
    (toGo, Insight.go, 1),
    (toPhp, Insight.php, 0),
    (toSwift, Insight.swift, 0),
    -- the rules of C# look for what those of Java look for
    (toCSharp, Insight.java, 2) ]

/-- Every shape is written with the braces that its role asks for, by each of the chains. -/
theorem shapes_braceChains : (braceChains.all fun entry => shapes.all fun shape =>
    (entry.1.stencil? entry.2.1 shape).any shape.isBraced) = true := by
  decide +kernel

/-- **The chains lead into brace languages.** -/
theorem braced_of_mem {entry : Chain × List Insight × Nat} (h : entry ∈ braceChains) :
    entry.1.Braced entry.2.1 entry.2.2 := by
  have hshapes := List.all_eq_true.mp shapes_braceChains entry h
  simp only [braceChains, List.mem_cons, List.not_mem_nil, or_false] at h
  rcases h with rfl | rfl | rfl | rfl | rfl | rfl | rfl | rfl | rfl <;>
    exact {
      into := by repeat' first | exact .nil | refine .cons rfl ?_
      closer := rfl
      shapes := hshapes
      wrapper := by decide }

/-! ## All of them -/

/-- **Every chain that closes with braces** writes a brace language. -/
theorem exists_braced {chain : Chain} (hchain : chain ∈ fromPython)
    (hcloser : chain.closer = some .brace) : ∃ insights depth, chain.Braced insights depth := by
  have hruby : toRuby.closer ≠ some .brace := fun h => by
    have htoken : "end" = "\x7d" := congrArg Closer.token (Option.some.inj h)
    exact absurd htoken (by decide)
  have hlisted : ∀ chain ∈ fromPython, chain = toRuby ∨ chain ∈ braceChains.map Prod.fst := by
    simp [fromPython, braceChains]
  rcases hlisted chain hchain with rfl | hmem
  · exact absurd hcloser hruby
  · obtain ⟨entry, hentry, rfl⟩ := List.mem_map.mp hmem
    exact ⟨_, _, braced_of_mem hentry⟩

/-- **Every chain from Python into a brace language writes balanced braces**, for programs of any
length and depth and with the text around the program included. -/
theorem balanced_transform {chain : Chain} (hchain : chain ∈ fromPython)
    (hcloser : chain.closer = some .brace) (program : Program) :
    Balanced (chain.transform .stack (program.text python)) := by
  obtain ⟨insights, depth, hbraced⟩ := exists_braced hchain hcloser
  exact hbraced.balanced program

/-- A loop that the chain to C leaves as it is, and what it prints. -/
theorem balanced_transform_toC : toC ∈ fromPython ∧ toC.closer = some .brace ∧
    Balanced (toC.transform .stack (Program.text (.last (.block
      (.each ⟨"v".toList, by decide, by decide +kernel⟩ ⟨"xs".toList, by decide, by decide +kernel⟩)
      (.last (.step (.print (.name ⟨"v".toList, by decide, by decide +kernel⟩)))))) python)) :=
  ⟨by simp [fromPython], rfl, balanced_transform (by simp [fromPython]) rfl _⟩

end Chain

end Recast

import Recast.Chain.Catalog
import Recast.Proofs.Pattern.Inline

/-!
# Proofs/Chain/LineRules — the rules that act on each line by itself

The assignments of everything but texts, the comments and the semicolons are looked for by inline
patterns, in every chain that looks for them. So such a rule makes a text into what it makes of its
lines, joined again (`apply_eq_of_mem_lineRules`). They are the rules that look at where lines begin
or end, and see no further than a line (`mem_lineRules_iff`).

Assignments of texts are *not* among these rules: what stands between two quotes may run over line
ends.
-/

namespace Recast.Chain

open Form Text

/-- The rules that act on each line by itself. -/
def lineRules : List String :=
  ["assign_int", "assign_float", "assign_number", "assign_true", "assign_false", "assign_none",
    "assign_list", "assign_dict", "assign_any", "comment", "semicolon"]

/-- They are the rules that look at where lines begin or end, and see no further than a line. -/
theorem mem_lineRules_iff : ∀ chain ∈ catalog, ∀ rule ∈ chain.rules,
    rule.name ∈ lineRules ↔ rule.perLine = true ∧ rule.pattern.staysInline = true := by
  decide +kernel

/-- None of them is read where it takes nothing. -/
theorem takesSome_of_mem_lineRules : ∀ chain ∈ catalog, ∀ rule ∈ chain.rules,
    rule.name ∈ lineRules → rule.pattern.takesSome = true := by
  decide

/-- **The lines of a text are made one by one** into what each of them is made into alone, by every
rule of that name in every chain. -/
theorem apply_eq_of_mem_lineRules {chain : Chain} (hchain : chain ∈ catalog) {rule : Rule}
    (hrule : rule ∈ chain.rules) (hname : rule.name ∈ lineRules) (text : List Char) :
    rule.apply text = joinLines ((lines text).map rule.apply) := by
  obtain ⟨-, hinline⟩ := (mem_lineRules_iff chain hchain rule hrule).mp hname
  exact rule.apply_eq_joinLines_map hinline
    (takesSome_of_mem_lineRules chain hchain rule hrule hname) text

/-- A mapping that ends on a further line stays as it is, and so does one behind which a carriage
return stands; the line below them is assigned to. -/
theorem apply_eq_of_mem_lineRules_mappings :
    let rule : Rule := ⟨"assign_dict", assignBetween '{' '}', [1, "let ", 2, " = \x7b", 3, "\x7d;"]⟩
    let text := "a = \x7b\x7d\r\nb = \x7b\n\x7d\n\té =\x7b\x7b1: 2\x7d\x7d\n".toList
    toJavaScript ∈ catalog ∧ rule ∈ toJavaScript.rules ∧ rule.name ∈ lineRules ∧
      String.ofList (rule.apply text) =
        "a = \x7b\x7d\r\nb = \x7b\n\x7d\n\tlet é = \x7b\x7b1: 2\x7d\x7d;\n" := by
  intro rule text
  have hchain : toJavaScript ∈ catalog := by simp [catalog, fromPython]
  have hrule : rule ∈ toJavaScript.rules := by simp [rule, toJavaScript, javaScriptRules]
  have hname : rule.name ∈ lineRules := by decide
  refine ⟨hchain, hrule, hname, ?_⟩
  rw [apply_eq_of_mem_lineRules hchain hrule hname text]
  decide

/-- A text between quotes that starts on one line and ends on the next is read only as a whole. -/
example :
    let rule : Rule := ⟨"assign_str_double", assignText '"', [1, "let ", 2, " = \"", 3, "\";"]⟩
    let text := "x = \"a\nb\"".toList
    rule.apply text ≠ joinLines ((lines text).map rule.apply) := by
  decide

end Recast.Chain

import Recast.Chain.Basic
import Recast.Chain.Shared

/-!
# Chain/ToRuby — Python source into Ruby

Blocks end with a word, so headers lose their colon and gain nothing. Loops become blocks of a
method call, headed by `do` and the loop's variable between bars.
-/

namespace Recast.Chain

open Form Pattern Shared

/-- The rules from Python to Ruby. -/
def rubyRules : List Rule :=
  prints "puts " "" "'" ++
  [ ⟨"assign_any", assignAny, [1, 2, " = ", 3]⟩,
    ⟨"def", definition, ["def ", 1, "(", 2, ")"]⟩,
    ⟨"return", returnLine, [1, "return ", 2]⟩,
    ⟨"if", header "if", ["if ", 1]⟩,
    ⟨"elif", header "elif", ["elsif ", 1]⟩,
    ⟨"else", bareHeader "else", ["else"]⟩,
    ⟨"while", header "while", ["while ", 1]⟩,
    ⟨"for_range_1", forRange1, [2, ".times do |", 1, "|"]⟩,
    ⟨"for_range_2", forRange2, ["(", 2, "...", 3, ").each do |", 1, "|"]⟩,
    ⟨"for_range_3", forRange3, ["(", 2, "...", 3, ").step(", 4, ") do |", 1, "|"]⟩,
    ⟨"for_each", forEach, [2, ".each do |", 1, "|"]⟩,
    ⟨"append", methodOpen "append", [".push("]⟩,
    ⟨"len", len, [1, ".length"]⟩,
    ⟨"upper", methodCall "upper", [".upcase"]⟩,
    ⟨"lower", methodCall "lower", [".downcase"]⟩,
    ⟨"strip", methodCall "strip", [".strip"]⟩ ] ++
  logic "true" "false" "nil" ++
  [ ⟨"comment", comment, [1, "# ", 2]⟩,
    ⟨"try", bareHeader "try", ["begin"]⟩,
    ⟨"except_as", exceptAs, ["rescue ", 1, " => ", 2]⟩,
    ⟨"except_type", exceptKind, ["rescue ", 1]⟩,
    ⟨"except_bare", bareHeader "except", ["rescue"]⟩,
    ⟨"finally", bareHeader "finally", ["ensure"]⟩,
    ⟨"class", classHeader, ["class ", 1]⟩,
    ⟨"class_extends", classExtends, ["class ", 1, " < ", 2]⟩ ]

/-- Python to Ruby. -/
def toRuby : Chain where
  source := "python"
  target := "ruby"
  rules := rubyRules
  closer := some .endWord

end Recast.Chain

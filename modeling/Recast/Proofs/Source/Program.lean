import Recast.Proofs.Source.Stencil
import Recast.Text.Lines

/-!
# Proofs/Source/Program — the programs whose recasting is known exactly

A small language of assignments, output, `return`, branches, loops and definitions, nested to any
depth. A program is a tree; its **outline** is the list of its lines in order, each with its depth,
and with a mark where a block statement ends.

There are few **shapes** of lines, and a line is its shape with the blanks filled. A `Style` says
how a language writes each shape and what it puts where a block statement ends, so one outline gives
the text of the program in every language.
-/

namespace Recast.Source

/-! ## Names and values -/

/-- The words that the source language keeps for itself. -/
def pythonWords : List String :=
  ["False", "None", "True", "and", "as", "assert", "async", "await", "break", "class", "continue",
    "def", "del", "elif", "else", "except", "finally", "for", "from", "global", "if", "import",
    "in", "is", "lambda", "nonlocal", "not", "or", "pass", "raise", "return", "try", "while",
    "with", "yield"]

/-- The words that JavaScript keeps for itself. -/
def javaScriptWords : List String :=
  ["await", "break", "case", "catch", "class", "const", "continue", "debugger", "default", "delete",
    "do", "else", "enum", "export", "extends", "false", "finally", "for", "function", "if",
    "import", "in", "instanceof", "new", "null", "return", "super", "switch", "this", "throw",
    "true", "try", "typeof", "var", "void", "while", "with", "yield"]

/-- The words that Ruby keeps for itself. -/
def rubyWords : List String :=
  ["BEGIN", "END", "__ENCODING__", "__FILE__", "__LINE__", "alias", "and", "begin", "break", "case",
    "class", "def", "defined?", "do", "else", "elsif", "end", "ensure", "false", "for", "if", "in",
    "module", "next", "nil", "not", "or", "redo", "rescue", "retry", "return", "self", "super",
    "then", "true", "undef", "unless", "until", "when", "while", "yield"]

/-- The words that are no names in a program. -/
def reserved : List String :=
  pythonWords ++ javaScriptWords ++ rubyWords ++ ["print", "input", "len", "range", "undefined"]

/-- The text is a reserved word. -/
def isReserved (text : List Char) : Bool := reserved.any (·.toList == text)

/-- A letter or underscore, then letters, digits and underscores, all of them ASCII. -/
def isIdentifier : List Char → Bool
  | [] => false
  | c :: rest => (c.isAlpha || c == '_') && rest.all fun d => d.isAlphanum || d == '_'

/-- An identifier that no language has reserved. -/
structure Name where
  chars : List Char
  isIdentifier : isIdentifier chars = true
  unreserved : isReserved chars = false

/-- A string of ASCII digits. -/
structure Numeral where
  digits : List Char
  ne_nil : digits ≠ []
  isDigit : ∀ c ∈ digits, c.isDigit = true

/-- A value: a name or a number. -/
inductive Atom
  | name (name : Name)
  | number (number : Numeral)

def Atom.text : Atom → List Char
  | .name n => n.chars
  | .number n => n.digits

/-- How two values are compared. -/
inductive Comparison
  | lt | gt | le | ge | eq | ne

def Comparison.sign : Comparison → String
  | .lt => "<"
  | .gt => ">"
  | .le => "<="
  | .ge => ">="
  | .eq => "=="
  | .ne => "!="

/-- Two values compared. -/
structure Condition where
  left : Atom
  comparison : Comparison
  right : Atom

def Condition.text (c : Condition) : List Char :=
  c.left.text ++ ' ' :: (c.comparison.sign.toList ++ ' ' :: c.right.text)

/-- Where a counted loop ends; where it starts and ends; and by how much it steps. -/
inductive Bounds
  | stop (stop : Numeral)
  | range (start stop : Numeral)
  | stepped (start stop step : Numeral)

/-- The names of a list of parameters, between commas. -/
def parameterText (parameters : List Name) : List Char :=
  List.intercalate [',', ' '] (parameters.map Name.chars)

/-! ## Lines -/

/-- A statement on a line of its own. -/
inductive Step
  | assign (target : Name) (value : Atom)
  | print (value : Atom)
  | give (value : Atom)

/-- The line at the head of a block that nothing continues. -/
inductive Header
  | repeatWhile (condition : Condition)
  | count (counter : Name) (bounds : Bounds)
  | each (item items : Name)
  | define (name : Name) (parameters : List Name)

/-- A line of a program. -/
inductive Line
  | step (step : Step)
  | header (header : Header)
  | branch (condition : Condition)
  | elseBranch (condition : Condition)
  | otherwise

/-! ## Shapes -/

/-- The shapes of lines. An assignment of a name and one of a number are told apart, and so are the
three counted loops. -/
inductive Shape
  | assignName | assignNumber | print | give | repeatWhile | count1 | count2 | count3 | each
  | define | branch | elseBranch | otherwise
deriving DecidableEq

/-- The shape of a line. -/
def Line.shape : Line → Shape
  | .step (.assign _ (.name _)) => .assignName
  | .step (.assign _ (.number _)) => .assignNumber
  | .step (.print _) => .print
  | .step (.give _) => .give
  | .header (.repeatWhile _) => .repeatWhile
  | .header (.count _ (.stop _)) => .count1
  | .header (.count _ (.range _ _)) => .count2
  | .header (.count _ (.stepped _ _ _)) => .count3
  | .header (.each _ _) => .each
  | .header (.define _ _) => .define
  | .branch _ => .branch
  | .elseBranch _ => .elseBranch
  | .otherwise => .otherwise

/-- What fills the blanks of a line, from the first one on. -/
def Line.values : Line → List (List Char)
  | .step (.assign target value) => [target.chars, value.text]
  | .step (.print value) | .step (.give value) => [value.text]
  | .header (.repeatWhile c) | .branch c | .elseBranch c => [c.text]
  | .header (.count i (.stop n)) => [i.chars, n.digits]
  | .header (.count i (.range a b)) => [i.chars, a.digits, b.digits]
  | .header (.count i (.stepped a b c)) => [i.chars, a.digits, b.digits, c.digits]
  | .header (.each v items) => [v.chars, items.chars]
  | .header (.define f parameters) => [f.chars, parameterText parameters]
  | .otherwise => []

/-! ## Programs -/

mutual

/-- A statement. -/
inductive Statement
  | step (step : Step)
  | block (header : Header) (body : Body)
  | branch (condition : Condition) (body : Body) (rest : Branches)

/-- What follows the first branch of a choice. -/
inductive Branches
  | done
  | otherwise (body : Body)
  | elseBranch (condition : Condition) (body : Body) (rest : Branches)

/-- One statement or more. -/
inductive Body
  | last (statement : Statement)
  | next (statement : Statement) (rest : Body)

end

/-- A program is a body at depth zero. -/
abbrev Program := Body

/-! ## Outlines -/

/-- A line, or the end of the block statement that a line heads. -/
inductive Entry
  | line (line : Line)
  | close (head : Line)

mutual

/-- The lines of a statement in order, each with its depth, and the ends of block statements. -/
def Statement.outline (depth : Nat) : Statement → List (Nat × Entry)
  | .step step => [(depth, .line (.step step))]
  | .block header body =>
    (depth, .line (.header header)) ::
      (body.outline (depth + 1) ++ [(depth, .close (.header header))])
  | .branch condition body rest =>
    (depth, .line (.branch condition)) ::
      (body.outline (depth + 1) ++ rest.outline depth ++ [(depth, .close (.branch condition))])

def Branches.outline (depth : Nat) : Branches → List (Nat × Entry)
  | .done => []
  | .otherwise body => (depth, .line .otherwise) :: body.outline (depth + 1)
  | .elseBranch condition body rest =>
    (depth, .line (.elseBranch condition)) :: (body.outline (depth + 1) ++ rest.outline depth)

def Body.outline (depth : Nat) : Body → List (Nat × Entry)
  | .last statement => statement.outline depth
  | .next statement rest => statement.outline depth ++ rest.outline depth

end

/-! ## Texts -/

/-- How a language writes the lines of a program. -/
structure Style where
  /-- A line without its indentation. -/
  write : Line → List Char
  /-- What ends the block statement that the line heads, if anything does. -/
  close : Line → Option (List Char)

/-- The language that has a phrase for each shape of lines. -/
def Style.ofPhrases (write : Shape → Phrase) (close : Option String) : Style where
  write line := (write line.shape).fill (fillers line.values)
  close _ := close.map String.toList

/-- The indentation at a depth. -/
def indentation (depth : Nat) : List Char := List.replicate (4 * depth) ' '

/-- An indentation has spaces only. -/
theorem forall_mem_indentation {allowed : Char → Bool} (h : allowed ' ' = true) {depth : Nat} :
    ∀ c ∈ indentation depth, allowed c = true := by
  intro c hc
  rw [List.eq_of_mem_replicate hc]
  exact h

/-- A line has no more signs in it for being indented. -/
theorem not_mem_indentation {c : Char} {line : List Char} (hc : c ≠ ' ') (hline : c ∉ line)
    (depth : Nat) : c ∉ indentation depth ++ line := by
  rw [List.mem_append, not_or]
  exact ⟨fun hmem => hc (List.eq_of_mem_replicate hmem), hline⟩

/-- The text line that an entry of an outline stands for. -/
def Style.entryText? (style : Style) : Nat × Entry → Option (List Char)
  | (depth, .line line) => some (indentation depth ++ style.write line)
  | (depth, .close head) => (style.close head).map (indentation depth ++ ·)

/-- The text lines of an outline. -/
def Style.textLines (style : Style) (outline : List (Nat × Entry)) : List (List Char) :=
  outline.filterMap style.entryText?

/-- **The text of a program.** -/
def Program.text (program : Program) (style : Style) : List Char :=
  Text.joinLines (style.textLines (program.outline 0))

/-! ## Languages -/

/-- The shapes of the source language. -/
def Shape.inPython : Shape → Phrase
  | .assignName | .assignNumber => [1, " = ", 2]
  | .print => ["print(", 1, ")"]
  | .give => ["return ", 1]
  | .repeatWhile => ["while ", 1, ":"]
  | .count1 => ["for ", 1, " in range(", 2, "):"]
  | .count2 => ["for ", 1, " in range(", 2, ", ", 3, "):"]
  | .count3 => ["for ", 1, " in range(", 2, ", ", 3, ", ", 4, "):"]
  | .each => ["for ", 1, " in ", 2, ":"]
  | .define => ["def ", 1, "(", 2, "):"]
  | .branch => ["if ", 1, ":"]
  | .elseBranch => ["elif ", 1, ":"]
  | .otherwise => ["else:"]

/-- The source language, whose blocks end without a mark. -/
def python : Style := .ofPhrases Shape.inPython none

/-- The shapes of JavaScript. -/
def Shape.inJavaScript : Shape → Phrase
  | .assignName | .assignNumber => ["let ", 1, " = ", 2, ";"]
  | .print => ["console.log(", 1, ");"]
  | .give => ["return ", 1, ";"]
  | .repeatWhile => ["while (", 1, ") \x7b"]
  | .count1 => ["for (let ", 1, " = 0; ", 1, " < ", 2, "; ", 1, "++) \x7b"]
  | .count2 => ["for (let ", 1, " = ", 2, "; ", 1, " < ", 3, "; ", 1, "++) \x7b"]
  | .count3 => ["for (let ", 1, " = ", 2, "; ", 1, " < ", 3, "; ", 1, " += ", 4, ") \x7b"]
  | .each => ["for (let ", 1, " of ", 2, ") \x7b"]
  | .define => ["function ", 1, "(", 2, ") \x7b"]
  | .branch => ["if (", 1, ") \x7b"]
  | .elseBranch => ["\x7d else if (", 1, ") \x7b"]
  | .otherwise => ["\x7d else \x7b"]

/-- JavaScript, where every block statement ends with a brace. -/
def javaScript : Style := .ofPhrases Shape.inJavaScript (some "\x7d")

/-- The shapes of Ruby. A counted loop calls a method of its first number or of a range of numbers,
and hands it the block. -/
def Shape.inRuby : Shape → Phrase
  | .assignName | .assignNumber => [1, " = ", 2]
  | .print => ["puts ", 1]
  | .give => ["return ", 1]
  | .repeatWhile => ["while ", 1]
  | .count1 => [2, ".times do |", 1, "|"]
  | .count2 => ["(", 2, "...", 3, ").each do |", 1, "|"]
  | .count3 => ["(", 2, "...", 3, ").step(", 4, ") do |", 1, "|"]
  | .each => [2, ".each do |", 1, "|"]
  | .define => ["def ", 1, "(", 2, ")"]
  | .branch => ["if ", 1]
  | .elseBranch => ["elsif ", 1]
  | .otherwise => ["else"]

/-- Ruby, where every block statement ends with a word. -/
def ruby : Style := .ofPhrases Shape.inRuby (some "end")

end Recast.Source

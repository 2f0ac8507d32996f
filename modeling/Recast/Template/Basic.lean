import Recast.Phrase
import Recast.Template.Generators
import Recast.Wrapper

/-!
# Template/Basic — how a language writes its simplest statements

A template says how a language prints an expression, declares a variable, starts a file and wraps a
main function. Templates of two languages are enough to carry simple programs from one to the other,
so that each language needs one template and not one chain for every other language.

A template holds no functions, but phrases with blanks. It is one way to come by the generators of a
language (`Template.generators`), and those of a template never fail.
-/

namespace Recast

/-- How a language writes its simplest statements. -/
structure Template where
  /-- The language the template was written for. -/
  language : String
  /-- A statement that prints an expression, blank 1. -/
  output : Phrase
  /-- A declaration of a name, blank 1, with the value of an expression, blank 2. -/
  declaration : Phrase
  /-- The lines every file starts with. -/
  imports : List String := []
  /-- The main function, in a language where statements cannot stand on their own. -/
  entry : Option Wrapper := none

namespace Template

/-- The statement that prints an expression. -/
def print (template : Template) (expr : List Char) : List Char :=
  template.output.fill fun number => if number = 1 then expr else []

/-- The declaration of a name with the value of an expression. -/
def declare (template : Template) (name expr : List Char) : List Char :=
  template.declaration.fill fun number =>
    if number = 1 then name else if number = 2 then expr else []

/-- The body in a main function, in a language that has one. -/
def main? (template : Template) (body : List Char) : Option (List Char) :=
  template.entry.map (·.wrap body)

/-- **The generators that the template gives.** -/
def generators {m : Type → Type} [Pure m] (template : Template) : Generators m where
  language := template.language
  print expr := pure (template.print expr)
  declare name expr := pure (template.declare name expr)
  imports := template.imports
  main := template.entry.map fun _ body => pure ((template.main? body).getD body)

/-- A template stands for its generators. -/
instance : Coe Template (Generators Option) := ⟨generators⟩

/-! ## The templates there are -/

/-- A main function of the given header, with four spaces of indentation. -/
def mainFunction (header footer : String) : Wrapper :=
  { header := header ++ " \x7b\n", footer := "\n" ++ footer ++ "\x7d", indent := "    " }

/-- **Every template there is.** -/
def builtin : List Template :=
  [ { language := "javascript"
      output := ["console.log(", 1, ");"]
      declaration := ["let ", 1, " = ", 2, ";"] },
    { language := "typescript"
      output := ["console.log(", 1, ");"]
      declaration := ["let ", 1, " = ", 2, ";"] },
    { language := "java"
      output := ["System.out.println(", 1, ");"]
      declaration := ["var ", 1, " = ", 2, ";"]
      imports := ["import java.util.*;"]
      entry := some
        { header := "public class Main \x7b\n    public static void main(String[] args) \x7b\n"
          footer := "\n    \x7d\n\x7d"
          indent := "        " } },
    { language := "kotlin"
      output := ["println(", 1, ")"]
      declaration := ["var ", 1, " = ", 2]
      entry := some (mainFunction "fun main()" "") },
    { language := "cpp"
      output := ["std::cout << ", 1, " << std::endl;"]
      declaration := ["auto ", 1, " = ", 2, ";"]
      imports := ["#include <iostream>", "#include <string>"]
      entry := some (mainFunction "int main()" "    return 0;\n") },
    { language := "c"
      output := ["printf(\"%s\\n\", ", 1, ");"]
      declaration := ["int ", 1, " = ", 2, ";"]
      imports := ["#include <stdio.h>"]
      entry := some (mainFunction "int main()" "    return 0;\n") },
    { language := "go"
      output := ["fmt.Println(", 1, ")"]
      declaration := [1, " := ", 2]
      imports := ["package main", "import \"fmt\""]
      entry := some (mainFunction "func main()" "") },
    { language := "rust"
      output := ["println!(\"\x7b\x7d\", ", 1, ");"]
      declaration := ["let mut ", 1, " = ", 2, ";"]
      entry := some (mainFunction "fn main()" "") },
    { language := "swift"
      output := ["print(", 1, ")"]
      declaration := ["var ", 1, " = ", 2] },
    { language := "ruby"
      output := ["puts ", 1]
      declaration := [1, " = ", 2] },
    { language := "php"
      output := ["echo ", 1, ";"]
      declaration := ["$", 1, " = ", 2, ";"]
      imports := ["<?php"] } ]

/-- The template written for the language. -/
def builtin? (language : String) : Option Template := builtin.find? (·.language == language)

end Template

end Recast

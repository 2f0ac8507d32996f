import Recast.Text.Lines

/-!
# Wrapper — the fixed text around a body of statements

Some languages let no statement stand on its own: it has to stand in a function, and the function in
a class. A wrapper puts such text before and after a body and indents the body's lines. Its pieces
are fixed; blank lines of the body stay as they are.
-/

namespace Recast

/-- The fixed text around a body. -/
structure Wrapper where
  header : String := ""
  footer : String := ""
  indent : String := ""
deriving Repr, DecidableEq, Inhabited

namespace Wrapper

/-- The body with its lines indented; where nothing is to stand in front of them, the body as it
is. -/
def indented (wrapper : Wrapper) (body : List Char) : List Char :=
  if wrapper.indent = "" then body else Text.indentLines wrapper.indent.toList body

/-- The body with its lines indented, between header and footer. -/
def wrap (wrapper : Wrapper) (body : List Char) : List Char :=
  wrapper.header.toList ++ wrapper.indented body ++ wrapper.footer.toList

/-- No indentation leaves the lines as they are. -/
theorem indented_eq (wrapper : Wrapper) (body : List Char) :
    wrapper.indented body = Text.indentLines wrapper.indent.toList body := by
  rw [indented]
  split
  · rename_i hindent
    rw [hindent]
    exact (Text.indentLines_nil body).symm
  · rfl

end Wrapper

end Recast

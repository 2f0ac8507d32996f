import Recast.Language
import Recast.Text.Lines

/-!
# Echo — a source shown as comments

Where nothing better is known, the source is shown line by line as comments of the target language,
between a banner that says what it is and advice on what to do with it.
-/

namespace Recast.Echo

/-- The lines in front of the source. -/
def banner (source target : Language) : List String :=
  let comment := target.commentPrefix
  [ comment ++ " Rule-based translation from " ++ source.displayName ++ " to " ++
      target.displayName,
    comment ++ " Manual conversion required for complex syntax",
    comment ++ " Original " ++ source.displayName ++ " code:",
    "" ]

/-- The lines behind the source. -/
def guidance (source target : Language) : List String :=
  let comment := target.commentPrefix
  [ "",
    comment ++ " Convert the above " ++ source.displayName ++ " code to " ++ target.displayName ++
      " by hand.",
    comment ++ " This is a basic fallback. For better results:",
    comment ++ " 1. Retry once the primary translation service is available",
    comment ++ " 2. Translate via Python, which has dedicated rule chains" ]

/-- A line of the source as a comment. -/
def comment (target : Language) (line : List Char) : List Char :=
  target.commentPrefix.toList ++ ' ' :: line

/-- **The source as comments, between banner and guidance.** -/
def render (code : List Char) (source target : Language) : List Char :=
  Text.joinLines <|
    (banner source target).map String.toList ++ (Text.lines code).map (comment target) ++
      (guidance source target).map String.toList

end Recast.Echo

import Recast.Proofs.Template.Output

/-!
# Proofs/Template/Formatted — output statements with a format string

Two of the languages print through a format string: C with `%s` and an escaped line feed, Rust with
a pair of braces. Their output statements are recognised as calls, and what is kept of a call is all
that stands between its parentheses, so the format string goes over to the target in front of the
printed expression. Only the escaped line feed is left out (`recastOutput_formatted`).

The quoted text of a C format string is read as long as possible, and an expression without quotes
makes it no longer (`Idiom.plainArgument_format`).
-/

namespace Recast

open Form Pattern Text

namespace Script

/-- What is printed through a format string: nothing in it ends the call, or the quoted text. -/
structure Unquoted where
  chars : List Char
  not_mem : ∀ c ∈ ['\n', ')', '"', '\'', '\\'], c ∉ chars

end Script

namespace Idiom

variable {before rest text more : List Char}

/-- Either quote. -/
def isQuote (c : Char) : Bool := c == '"' || c == '\''

theorem anyQuoted_eq :
    anyQuoted = all [.one isQuote, .group 1 (many isInline), .one isQuote] := rfl

/-- **A quoted text is read up to the last quote** of its line. -/
theorem readAt?_anyQuoted (htext : ∀ c ∈ text, isInline c = true)
    (hmore : ∀ c ∈ more, isQuote c = false) :
    anyQuoted.readAt? ⟨before, '"' :: (text ++ '"' :: more), []⟩ =
      some ⟨'"' :: (text.reverse ++ '"' :: before), more,
        [(1, ⟨text ++ '"' :: more, '"' :: more⟩)]⟩ := by
  have hclose : ∀ before c rest kept, (all [.one isQuote]).read some ⟨before, c :: rest, kept⟩ =
      if isQuote c then some ⟨c :: before, rest, kept⟩ else none := fun _ _ _ _ => rfl
  have hquote : isQuote '"' = true := rfl
  rw [readAt?, anyQuoted_eq, all_cons, read_seq, read_one, if_pos hquote, all_cons, read_seq,
    read_group]
  refine read_many_of_last htext (fun a b hab ha => ?_) (by rw [hclose, if_pos hquote])
  cases b with
  | nil => rfl
  | cons c b =>
    have hc : c ∈ more := by
      cases a with
      | nil => exact absurd rfl ha
      | cons d a =>
        obtain ⟨-, rfl⟩ := List.cons.inj hab
        simp
    rw [hclose, hmore c hc, if_neg (by decide)]

/-- A text in double quotes is written as it stands. -/
theorem replaceFirst_anyQuoted (htext : ∀ c ∈ text, isInline c = true)
    (hmore : ∀ c ∈ more, isQuote c = false) :
    replaceFirst anyQuoted (fun spot => '"' :: (spot.keptText? 1).getD [] ++ ['"'])
      ('"' :: (text ++ '"' :: more)) = '"' :: (text ++ '"' :: more) := by
  rw [replaceFirst, findFrom?, readAt?_anyQuoted htext hmore]
  simp [Spot.keptText?]

/-- An escaped line feed is left out. -/
theorem replaceAll_lineFeed (htext : '\\' ∉ text) (hmore : '\\' ∉ more) :
    replaceAll (.text "\\n") (fun _ => []) (text ++ ("\\n".toList ++ more)) = text ++ more := by
  have hshuns : (Pattern.text "\\n").Shuns (· != '\\') := shuns_text (by decide)
  have hmisses : ∀ {before line rest : List Char}, '\\' ∉ line →
      (Pattern.text "\\n").Misses before line rest := fun hline =>
    misses_of_shuns hshuns fun c hc => bne_iff_ne.mpr fun heq => hline (heq ▸ hc)
  rw [replaceAll, replaceFrom_of_misses (hmisses htext),
    replaceFrom_of_readAt? (by decide) (read_text "\\n" some _ more []),
    replaceFrom_eq_self (hmisses hmore), List.nil_append]

/-- **Of a format string only the escaped line feed is lost.** -/
theorem plainArgument_format (htext : ∀ c ∈ text, isInline c = true ∧ c ≠ '\\')
    (hmore : ∀ c ∈ more, isQuote c = false ∧ c ≠ '\\') :
    plainArgument ('"' :: (text ++ "\\n".toList ++ '"' :: more)) =
      '"' :: (text ++ '"' :: more) := by
  have hinline : ∀ c ∈ text ++ "\\n".toList, isInline c = true := by
    intro c hc
    rcases List.mem_append.mp hc with hc | hc
    · exact (htext c hc).1
    · exact List.all_eq_true.mp (show "\\n".toList.all isInline = true by decide) c hc
  have hbefore : '\\' ∉ '"' :: text := by
    simpa using fun hmem => (htext _ hmem).2 rfl
  have hbehind : '\\' ∉ '"' :: more := by
    simpa using fun hmem => (hmore _ hmem).2 rfl
  have hlost := replaceAll_lineFeed hbefore hbehind
  rw [plainArgument, replaceFirst_anyQuoted hinline fun c hc => (hmore c hc).1]
  simpa using hlost

end Idiom

namespace Template

open Script

variable {source target : Template} {callee : Pattern} {name : String}
  {opening format : List Char}

/-- What stands in front of a printed expression that was read from a format string. -/
def formatOf (language : String) : List Char :=
  if language = "c" then "\"%s\", ".toList else "\"\x7b\x7d\", ".toList

/-- Calls of an output function are carried over with what stands in front of the expression. -/
theorem recastOutput_callStatement (hcallee : Idiom.Calls callee name)
    (hfeed : callee.Shuns (· == '\n'))
    (hpattern : Idiom.output? source.language = some (Idiom.callStatement callee))
    (hprint : ∀ expr, source.print expr =
      name.toList ++ ("(".toList ++ (opening ++ expr ++ ");".toList)))
    (hopening : ∀ c ∈ opening, isInline c = true ∧ c ≠ ')')
    (hprinted : ∀ v : Unquoted,
      Idiom.printed source.language (opening ++ v.chars) = format ++ v.chars)
    (arguments : List Unquoted) :
    recastOutput (joinLines (arguments.map fun v => source.print v.chars)) source.language target =
      joinLines (arguments.map fun v => target.print (format ++ v.chars)) := by
  have hshuns : (Idiom.callStatement callee).Shuns (· == '\n') := hfeed.seq
  rw [recastOutput_eq, hpattern]
  refine @replaceFrom_joinLines _ _ (fun _ => True) hshuns _ _ ?_ (fun _ _ _ => trivial) trivial
    [] rfl
  refine List.forall₂_map_left_iff.mpr <| List.forall₂_map_right_iff.mpr <|
    List.forall₂_same.mpr fun v _ before rest hbefore hrest _ => ?_
  have hinside : ∀ c ∈ opening ++ v.chars, isInline c = true ∧ c ≠ ')' := by
    intro c hc
    rcases List.mem_append.mp hc with hc | hc
    · exact hopening c hc
    · refine ⟨bne_iff_ne.mpr ?_, ?_⟩
      · rintro rfl
        exact v.not_mem _ (by simp) hc
      · rintro rfl
        exact v.not_mem _ (by simp) hc
  have hreads : (Idiom.callStatement callee).Reads before _ rest _ :=
    Idiom.callStatement_reads hcallee hinside hbefore
  obtain ⟨before', kept, hspot, hkept⟩ := hreads
  have hone : (Spot.keptText? ⟨before', rest, kept⟩ 1).getD [] = opening ++ v.chars := hkept 1
  rw [hprint, replaceFrom_of_readAt? (by simp) hspot, hone, hprinted]

theorem printed_c (v : Unquoted) :
    Idiom.printed "c" ("\"%s\\n\", ".toList ++ v.chars) = formatOf "c" ++ v.chars := by
  have hcomma : ∀ c ∈ ", ".toList, Idiom.isQuote c = false ∧ c ≠ '\\' := by
    simp [Idiom.isQuote]
  have hmore : ∀ c ∈ ", ".toList ++ v.chars, Idiom.isQuote c = false ∧ c ≠ '\\' := by
    intro c hc
    rcases List.mem_append.mp hc with hc | hc
    · exact hcomma c hc
    · refine ⟨?_, fun heq => v.not_mem '\\' (by simp) (heq ▸ hc)⟩
      rw [Idiom.isQuote, Bool.or_eq_false_iff, beq_eq_false_iff_ne, beq_eq_false_iff_ne]
      exact ⟨fun heq => v.not_mem '"' (by simp) (heq ▸ hc),
        fun heq => v.not_mem '\'' (by simp) (heq ▸ hc)⟩
  have hformat : ∀ c ∈ "%s".toList, isInline c = true ∧ c ≠ '\\' := by simp [isInline]
  exact Idiom.plainArgument_format hformat hmore

/-- **Format strings are carried over as they are.** Lines that print expressions in C or Rust
become lines of the target that print the format string, without its line feed, and the
expression. -/
theorem recastOutput_formatted (hsource : source ∈ builtin)
    (hlanguage : source.language ∈ ["c", "rust"]) (target : Template)
    (arguments : List Unquoted) :
    recastOutput (joinLines (arguments.map fun v => source.print v.chars)) source.language target =
      joinLines (arguments.map fun v => target.print (formatOf source.language ++ v.chars)) := by
  have hshuns : ∀ {name : String}, (name.toList.head?.any fun c => !(c == '\n')) = true →
      (keyword name).Shuns (· == '\n') := fun h => (shuns_text h).edge_seq
  simp only [builtin, List.mem_cons, List.not_mem_nil, or_false] at hsource
  rcases hsource with rfl | rfl | rfl | rfl | rfl | rfl | rfl | rfl | rfl | rfl | rfl <;>
    try exact absurd hlanguage (by decide)
  · have hopening : ∀ c ∈ "\"%s\\n\", ".toList, isInline c = true ∧ c ≠ ')' := by
      simp [isInline]
    refine recastOutput_callStatement (Idiom.calls_keyword "printf" rfl) (hshuns rfl) rfl
      (fun expr => ?_) hopening printed_c arguments
    rw [print_eq_of_stencil rfl]
    rfl
  · have hopening : ∀ c ∈ "\"\x7b\x7d\", ".toList, isInline c = true ∧ c ≠ ')' := by
      simp [isInline]
    refine recastOutput_callStatement (Idiom.calls_keyword "println!" rfl) (hshuns rfl) rfl
      (fun expr => ?_) hopening (fun _ => rfl) arguments
    rw [print_eq_of_stencil rfl]
    rfl

/-- A name, and a comparison with blanks in it. -/
def nameAndComparison : List Unquoted :=
  [⟨"x".toList, by simp⟩, ⟨"a[0] < b".toList, by simp⟩]

theorem recastOutput_formatted_toRuby : builtin[7] ∈ builtin ∧
    builtin[7].language ∈ ["c", "rust"] ∧
      String.ofList (recastOutput
        (joinLines (nameAndComparison.map fun v => builtin[7].print v.chars)) builtin[7].language
        builtin[9]) = "puts \"\x7b\x7d\", x\nputs \"\x7b\x7d\", a[0] < b" := by
  have hsource : builtin[7] ∈ builtin := List.getElem_mem _
  have hlanguage : builtin[7].language ∈ ["c", "rust"] := by decide
  refine ⟨hsource, hlanguage, ?_⟩
  exact (congrArg String.ofList
    (recastOutput_formatted hsource hlanguage builtin[9] nameAndComparison)).trans rfl

/-- The expression alone is not what either of the two languages gives to a target. -/
theorem recastOutput_formatted_ne :
    recastOutput (joinLines ([['x']].map builtin[5].print)) "c" builtin[0] ≠
        joinLines ([['x']].map builtin[0].print) ∧
      recastOutput (joinLines ([['x']].map builtin[7].print)) "rust" builtin[0] ≠
        joinLines ([['x']].map builtin[0].print) := by
  decide

end Template

end Recast

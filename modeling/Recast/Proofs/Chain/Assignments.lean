import Recast.Proofs.Chain.Refusals
import Recast.Proofs.Source.Assignment

/-!
# Proofs/Chain/Assignments — which rule takes which literal

The tables have up to nine rules for assignments, one after the other, and their forms overlap. For
each form it is known which literals it reads (`AssignForm.takes`): it reads the whole line of such
an assignment (`AssignForm.reads`) and nothing on the line of any other (`AssignForm.misses`).

So the first rule that takes the literal writes the line. What it writes is an assignment no more,
if it starts like a declaration, and then the later rules leave it alone
(`AssignForm.runs_of_writer?`).
-/

namespace Recast

open Text Source Form Pattern

namespace Form

variable {before rest m x : List Char}

/-! ## Literals that are read -/

/-- Behind a word that is assigned nothing is kept. -/
theorem assignWord_reads {value : String} (hvalue : value.toList.head?.any isWord = true)
    (hm : ∀ c ∈ m, isMargin c = true) (hx : IsWordRun x)
    (hbefore : before.head?.all (· = '\n') = true) (hrest : rest.head?.all (· = '\n') = true) :
    (assignWord value).Reads before (m ++ (x ++ (" = ".toList ++ value.toList))) rest [m, x] := by
  have hline : m ++ (x ++ (" = ".toList ++ value.toList)) ++ rest =
      m ++ (x ++ (" = ".toList ++ (value.toList ++ rest))) := by simp
  have hhead : (value.toList ++ rest).head?.any isMargin = false := by
    cases hchars : value.toList with
    | nil => simp [hchars] at hvalue
    | cons c more =>
      have hc : isWord c = true := by simpa [hchars] using hvalue
      simpa using isMargin_of_isWord c hc
  obtain ⟨before', hread⟩ := read_assign [.text value] hm hx hbefore
  apply Reads.intro
  · rw [hline, assignWord, hread]
    refine read_margin_space_of_eq_some hhead ?_
    rw [List.singleton_append, read_sign, read_lineEnd hrest]
    rfl
  · exact (keeps_nil.snoc m _).snoc x _

theorem isDigit_of_mem (n : Numeral) : ∀ c ∈ n.digits, isDigit c = true := fun c hc =>
  isDigit_of_charIsDigit (n.isDigit c hc)

/-- A number with a point is read by digits and something that reads the rest of it. -/
theorem assign_reads_point {ps : List Pattern} (n k : Numeral) (hm : ∀ c ∈ m, isMargin c = true)
    (hx : IsWordRun x) (hbefore : before.head?.all (· = '\n') = true)
    (hrest : rest.head?.all (· = '\n') = true)
    (hps : ∀ {next : Next} {before : List Char} {kept : List (Nat × Stretch)} {spot : Spot},
      next ⟨k.digits.reverse ++ ('.' :: before), rest, kept⟩ = some spot →
        (all ps).read next ⟨before, ".".toList ++ (k.digits ++ rest), kept⟩ = some spot) :
    (assign [.group 3 (all (digits :: ps))]).Reads before
      (m ++ (x ++ (" = ".toList ++ (n.digits ++ '.' :: k.digits)))) rest
      [m, x, n.digits ++ '.' :: k.digits] := by
  have hhead : (n.digits ++ '.' :: k.digits ++ rest).head?.any isMargin = false := by
    rw [List.append_assoc]
    exact head?_of_isWordRun n.isWordRun isMargin_of_isWord
  have hline : n.digits ++ '.' :: k.digits ++ rest =
      n.digits ++ (".".toList ++ (k.digits ++ rest)) := by simp
  refine assign_reads hm hx hhead hbefore fun before kept => ?_
  have hback : (n.digits ++ '.' :: k.digits).reverse ++ before =
      k.digits.reverse ++ ('.' :: (n.digits.reverse ++ before)) := by simp
  rw [hline, hback]
  exact read_many1_of_eq_some n.ne_nil (isDigit_of_mem n) rfl (hps (read_lineEnd hrest))

theorem assignFloat_reads (n k : Numeral) (hm : ∀ c ∈ m, isMargin c = true) (hx : IsWordRun x)
    (hbefore : before.head?.all (· = '\n') = true) (hrest : rest.head?.all (· = '\n') = true) :
    assignFloat.Reads before (m ++ (x ++ (" = ".toList ++ (n.digits ++ '.' :: k.digits)))) rest
      [m, x, n.digits ++ '.' :: k.digits] :=
  assign_reads_point n k hm hx hbefore hrest fun h => read_sign.trans
    (read_many1_of_eq_some k.ne_nil (isDigit_of_mem k) (head?_of_lineFeed rfl hrest) h)

theorem assignNumber_reads_point (n k : Numeral) (hm : ∀ c ∈ m, isMargin c = true)
    (hx : IsWordRun x) (hbefore : before.head?.all (· = '\n') = true)
    (hrest : rest.head?.all (· = '\n') = true) :
    assignNumber.Reads before (m ++ (x ++ (" = ".toList ++ (n.digits ++ '.' :: k.digits)))) rest
      [m, x, n.digits ++ '.' :: k.digits] :=
  assign_reads_point n k hm hx hbefore hrest fun h => read_optional_of_eq_some
    (read_many_of_eq_some (isDigit_of_mem k) (head?_of_lineFeed rfl hrest) h)

/-- Behind the point the digits of a whole number are not at an end. -/
theorem assignInt_refuses_point (n : Numeral) {more : List Char} (hm : ∀ c ∈ m, isMargin c = true)
    (hx : IsWordRun x) (hbefore : before.head?.all (· = '\n') = true) :
    assignInt.readAt? ⟨before, m ++ (x ++ (" = ".toList ++ (n.digits ++ '.' :: more))), []⟩ =
      none := by
  obtain ⟨before', hread⟩ := read_assign [.group 3 digits] hm hx hbefore
  have hmargin : (all ([.group 3 digits] ++ [.edge .lineEnd])).Shuns isMargin :=
    shuns_digits fun c hc => isDigit_of_isBlank c (isBlank_of_isMargin hc)
  rw [assignInt, hread, read_margin_space (head?_of_isWordRun n.isWordRun isMargin_of_isWord)
    hmargin, List.singleton_append, read_digits n rfl (shuns_lineEnd.mono isInline_of_isDigit)]
  exact shuns_lineEnd _ '.' rfl _ _ _

end Form

/-! ## Forms of assignments -/

/-- The assignments that there is a form for, by what is assigned. -/
inductive AssignForm
  | double | single | number | int | float | truth (value : Bool) | absent | list | dict | any
deriving DecidableEq

namespace AssignForm

variable {a : Assignment} {form : AssignForm} {before rest : List Char}

def pattern : AssignForm → Pattern
  | .double => assignText '"'
  | .single => assignText '\''
  | .number => assignNumber
  | .int => assignInt
  | .float => assignFloat
  | .truth value => assignWord (truthWord value)
  | .absent => assignWord "None"
  | .list => assignBetween '[' ']'
  | .dict => assignBetween '{' '}'
  | .any => assignAny

/-- The form reads literals of the shape. -/
def takes : AssignForm → Literal.Shape → Bool
  | .number, .whole | .number, .point | .int, .whole | .float, .point => true
  | .truth value, .truth value' => value == value'
  | .any, _ => true
  | _, _ => false

/-- The literal is kept, and not only found to be there. -/
def keepsValue : AssignForm → Bool
  | .truth _ | .absent => false
  | _ => true

/-- What is kept of an assignment. -/
def kept (form : AssignForm) (a : Assignment) : List (List Char) :=
  [a.margin, a.name.chars] ++ if form.keepsValue then [a.value.text] else []

theorem exists_pattern_eq (form : AssignForm) : ∃ value, form.pattern = assign value := by
  cases form <;> exact ⟨_, rfl⟩

/-- **The form reads an assignment of a literal that it takes** from end to end. -/
theorem reads (h : form.takes a.value.shape = true) (hbefore : before.head?.all (· = '\n') = true)
    (hrest : rest.head?.all (· = '\n') = true) :
    form.pattern.Reads before a.text rest (form.kept a) := by
  obtain ⟨m, hm, x, v⟩ := a
  have hx := x.isWordRun
  match form, v, h with
  | .number, .whole n, _ => exact assignNumber_reads n hm hx hbefore hrest
  | .number, .point n k, _ => exact assignNumber_reads_point n k hm hx hbefore hrest
  | .int, .whole n, _ => exact assignInt_reads n hm hx hbefore hrest
  | .float, .point n k, _ => exact assignFloat_reads n k hm hx hbefore hrest
  | .truth value, .truth value', h =>
    obtain rfl : value = value' := beq_iff_eq.mp h
    exact assignWord_reads (by cases value <;> decide) hm hx hbefore hrest
  | .any, v, _ =>
    obtain ⟨w, more, hw, htext⟩ := v.exists_text
    have hne : v.text ≠ [] := by simp [htext, hw.ne_nil]
    have hall : ∀ c ∈ v.text, (c != '=' && c != '\n') = true := fun c hc => by
      rcases Literal.mem_text hc with h | rfl
      · have hequal : c ≠ '=' := ne_of_isWord (by decide) h
        have hfeed : c ≠ '\n' := ne_of_isWord (by decide) h
        simp [hequal, hfeed]
      · decide
    have hhead : (v.text ++ rest).head?.any Form.isMargin = false := by
      rw [htext, List.append_assoc]
      exact head?_of_isWordRun hw isMargin_of_isWord
    exact assignAny_reads_value hm hx hne hall hhead hbefore hrest

/-- The line does not have the sign that is looked for. -/
theorem misses_of_not_mem {p : Pattern} {c : Char} (h : p.Shows [.text [c]]) (hfeed : c ≠ '\n')
    (hc : c ∉ a.text) (hrest : rest.head?.all (· = '\n') = true) :
    p.Misses before a.text rest := by
  refine misses_of_shows h (by simpa [Cue.isPlain] using hfeed) hrest fun cue hcue hin => hc ?_
  obtain rfl := List.mem_singleton.mp hcue
  exact hin.subset (List.mem_singleton_self c)

/-- The line does not have the keyword that is looked for. -/
theorem misses_of_not_mem_words {p : Pattern} {word : String} (h : p.Shows [.word word.toList])
    (hplain : (Cue.word word.toList).isPlain = true) (hw : word.toList ∉ words a.text)
    (hrest : rest.head?.all (· = '\n') = true) : p.Misses before a.text rest := by
  refine misses_of_shows h (by simpa using hplain) hrest fun cue hcue hin => hw ?_
  obtain rfl := List.mem_singleton.mp hcue
  exact hin

theorem misses_of_refuses {value : List Pattern}
    (h : (assign value).readAt? ⟨before, a.text ++ rest, []⟩ = none) :
    (assign value).Misses before a.text rest :=
  misses_of_startsLine startsLine_edge_seq (Assignment.not_mem_text (by decide) (by decide)) h

/-- Digits are looked for, and there is a truth value. -/
theorem misses_of_truth {value : List Pattern} {b : Bool} (hv : a.value = .truth b)
    (hvalue : (all (value ++ [.edge .lineEnd])).Shuns (!isDigit ·))
    (hbefore : before.head?.all (· = '\n') = true) :
    (assign value).Misses before a.text rest := by
  have hdigit : (truthWord b).toList.head?.any isDigit = false := by cases b <;> decide
  have hline : a.text ++ rest =
      a.margin ++ (a.name.chars ++ (" = ".toList ++ ((truthWord b).toList ++ rest))) := by
    simp [Assignment.text, hv, Literal.text]
  exact misses_of_refuses (hline ▸ assign_refuses_word a.isMargin a.name.isWordRun
    (isWordRun_truthWord b) hdigit hvalue hbefore)

/-- Where the value is one word, no point is in the line. -/
theorem point_not_mem_text (h : IsWordRun a.value.text) : '.' ∉ a.text := fun hmem => by
  rcases Assignment.mem_text hmem with hmem | hmem | hmem
  · exact absurd hmem (by decide)
  · exact absurd hmem (by decide)
  · exact absurd (h.isWord '.' hmem) (by decide)

/-- **The form finds nothing on the line of an assignment of any other literal.** -/
theorem misses (h : form.takes a.value.shape = false)
    (hbefore : before.head?.all (· = '\n') = true) (hrest : rest.head?.all (· = '\n') = true) :
    form.pattern.Misses before a.text rest := by
  have hsign {p : Pattern} {c : Char} (hshows : p.Shows [.text [c]])
      (hc : (!isWord c && c != '\n' && !" \t=.".toList.contains c) = true) :
      p.Misses before a.text rest := by
    obtain ⟨⟨hword, hfeed⟩, hmem⟩ : (isWord c = false ∧ c ≠ '\n') ∧ c ∉ " \t=.".toList := by
      simpa using hc
    exact misses_of_not_mem hshows hfeed (Assignment.not_mem_text hword hmem) hrest
  cases form with
  | double => exact hsign (assignText_shows '"') (by decide)
  | single => exact hsign (assignText_shows '\'') (by decide)
  | list => exact hsign (assignBetween_shows '[' ']') (by decide)
  | dict => exact hsign (assignBetween_shows '{' '}') (by decide)
  | any => simp [takes] at h
  | absent =>
    refine misses_of_not_mem_words (assignWord_shows "None") (by decide) (fun hw => ?_) hrest
    obtain ⟨b, -, hb⟩ := Assignment.eq_truthWord_of_mem_words (by decide) hw
    exact absurd hb (by cases b <;> decide)
  | truth b =>
    refine misses_of_not_mem_words (assignWord_shows (truthWord b)) (by cases b <;> decide)
      (fun hw => ?_) hrest
    obtain ⟨b', hv, hb⟩ := Assignment.eq_truthWord_of_mem_words (by cases b <;> decide) hw
    rw [hv] at h
    have hne : b ≠ b' := by simpa [takes, Literal.shape] using h
    exact absurd hb (by revert hne; cases b <;> cases b' <;> decide)
  | number =>
    cases hv : a.value with
    | whole n => simp [hv, takes, Literal.shape] at h
    | point n k => simp [hv, takes, Literal.shape] at h
    | truth b => exact misses_of_truth hv shuns_number_lineEnd hbefore
  | int =>
    cases hv : a.value with
    | whole n => simp [hv, takes, Literal.shape] at h
    | point n k =>
      have hline : a.text ++ rest = a.margin ++ (a.name.chars ++
          (" = ".toList ++ (n.digits ++ '.' :: (k.digits ++ rest)))) := by
        simp [Assignment.text, hv, Literal.text]
      exact misses_of_refuses
        (hline ▸ assignInt_refuses_point n a.isMargin a.name.isWordRun hbefore)
    | truth b => exact misses_of_truth hv shuns_digits_lineEnd hbefore
  | float =>
    refine misses_of_not_mem assignFloat_shows (by decide) (point_not_mem_text ?_) hrest
    cases hv : a.value with
    | whole n => exact n.isWordRun
    | point n k => simp [hv, takes, Literal.shape] at h
    | truth b => exact isWordRun_truthWord b

/-! ## A line under the rules for assignments -/

/-- A rule with the form writes its phrase. -/
theorem turns {rule : Rule} (hpattern : rule.pattern = form.pattern)
    (h : form.takes a.value.shape = true) :
    rule.Turns a.text (rule.phrase.stencil.fill (fillers (form.kept a))) := by
  refine Rule.turns_of_reads (by simp [Assignment.text]) fun before rest hbefore hrest => ?_
  rw [hpattern]
  exact form.reads h hbefore hrest

theorem leaves {rule : Rule} (hpattern : rule.pattern = form.pattern)
    (h : form.takes a.value.shape = false) : rule.Leaves a.text :=
  Rule.leaves_of_misses fun before rest hbefore hrest => by
    rw [hpattern]
    exact form.misses h hbefore hrest

/-- The line starts with a word and a space, and goes on with something else than an equality sign.
The first blank is a name. -/
def declares : Stencil → Bool
  | .text chars :: .blank 1 :: _ =>
    !chars.dropLast.isEmpty && chars.dropLast.all isWord && chars.getLast? == some ' '
  | .blank 1 :: .text (' ' :: c :: _) :: _ => c != '=' && !Form.isMargin c
  | _ => false

theorem exists_of_declares {stencil : Stencil} {x : List Char} (values : List (List Char))
    (hx : IsWordRun x) (h : declares stencil = true) : ∃ w c more, IsWordRun w ∧
      Form.isMargin c = false ∧ c ≠ '=' ∧
        stencil.fill (fillers (x :: values)) = w ++ ([' '] ++ c :: more) := by
  unfold declares at h
  split at h
  · rename_i chars rest
    obtain ⟨⟨hne, hword⟩, hlast⟩ : (chars.dropLast ≠ [] ∧ ∀ c ∈ chars.dropLast, isWord c = true) ∧
        chars.getLast? = some ' ' := by simpa using h
    have hchars : chars.dropLast ++ [' '] = chars := List.dropLast_append_getLast? _ hlast
    obtain ⟨c, more, rfl, hc⟩ := hx.exists_cons
    refine ⟨_, c, more ++ Stencil.fill rest (fillers ((c :: more) :: values)), ⟨hne, hword⟩,
      isMargin_of_isWord c hc, ne_of_isWord (by decide) hc, ?_⟩
    conv_lhs => rw [← hchars]
    simp [fillers]
  · rename_i c more rest
    obtain ⟨hequal, hmargin⟩ : c ≠ '=' ∧ Form.isMargin c = false := by simpa using h
    exact ⟨x, c, more ++ Stencil.fill rest (fillers (x :: values)), hx, hmargin, hequal,
      by simp [fillers]⟩
  · exact absurd h (by simp)

variable {phrase : Phrase} {value : List Char} {rule : Rule} {rules later : List Rule}
  {forms : List AssignForm}

/-- **A declaration is no assignment**, whatever is looked for in it. -/
theorem leaves_line (hpattern : rule.pattern = form.pattern)
    (hdeclares : declares phrase.stencil = true) (hfeed : '\n' ∉ a.line phrase value) :
    rule.Leaves (a.line phrase value) := by
  obtain ⟨pattern, hassign⟩ := form.exists_pattern_eq
  obtain ⟨w, c, more, hw, hmargin, hequal, hfill⟩ :=
    exists_of_declares [value] a.name.isWordRun hdeclares
  refine Rule.leaves_of_misses fun before rest hbefore _ => ?_
  rw [hpattern, hassign]
  refine misses_of_startsLine startsLine_edge_seq hfeed ?_
  have hnone : (assign pattern).readAt?
      ⟨before, a.margin ++ (w ++ ([' '] ++ c :: (more ++ rest))), []⟩ = .none :=
    assign_refuses a.isMargin hw.isWord (by decide) hmargin hequal
      (fun hnil => absurd hnil hw.ne_nil) (fun hnil => absurd hnil (by decide)) hbefore
  rw [Assignment.line_eq, hfill]
  simpa using hnone

/-- The first of the rules whose form takes literals of the shape, and the rules behind it. -/
def writer? : List Rule → List AssignForm → Literal.Shape → Option (AssignForm × Rule × List Rule)
  | rule :: rules, form :: forms, shape =>
    if form.takes shape then some (form, rule, rules) else writer? rules forms shape
  | _, _, _ => .none

/-- **The first rule that takes the literal writes the line**, if the line is a declaration then or
no rule comes later. -/
theorem runs_of_writer? (hpatterns : rules.map (·.pattern) = forms.map pattern)
    (h : writer? rules forms a.value.shape = some (form, rule, later))
    (hwrite : rule.phrase.stencil.fill (fillers (form.kept a)) = a.line phrase value)
    (hlater : later = [] ∨ declares phrase.stencil = true) (hfeed : '\n' ∉ a.line phrase value) :
    Rule.Runs rules a.text (a.line phrase value) := by
  generalize hshape : a.value.shape = shape at h
  fun_induction writer? rules forms shape with
  | case1 first rules form' forms _ htakes =>
    obtain ⟨rfl, rfl, rfl⟩ : form' = form ∧ first = rule ∧ rules = later := by simpa using h
    obtain ⟨hpattern, hrest⟩ := List.cons.inj hpatterns
    refine .cons (hwrite ▸ turns hpattern (hshape ▸ htakes))
      (Rule.runs_of_leaves fun rule' hrule' => ?_)
    rcases hlater with rfl | hdeclares
    · exact absurd hrule' List.not_mem_nil
    · have hmem : rule'.pattern ∈ forms.map pattern := hrest ▸ List.mem_map_of_mem hrule'
      obtain ⟨form'', -, hpattern'⟩ := List.mem_map.mp hmem
      exact leaves_line hpattern'.symm hdeclares hfeed
  | case2 first rules form' forms _ htakes ih =>
    obtain ⟨hpattern, hrest⟩ := List.cons.inj hpatterns
    exact .cons (leaves hpattern (by simpa [hshape] using htakes)) (ih hrest hshape h)
  | case3 => exact absurd h (by simp)

end AssignForm

end Recast

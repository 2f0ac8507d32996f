import Recast.Text.Quoted

/-!
# Command/Basic — what a user can ask for, and how it is written

What a user asks for is a `Command`. How arguments write one is for others to say: to a command they
are an `Invocation`, which either calls for the command or has been ended before. The rules at hand
(`Invocation.ofArguments`) are the usual ones. A command is written as its name and its arguments.
An argument that starts with a hyphen is an option: a long one by itself, or several short ones in a
row. The value of an option follows it, either in the same argument or as the next one; of an option
that comes again the last value counts. Behind two hyphens nothing is an option any more.

The bytes of an argument need not write a text. Paths are texts here, since no other way of writing
a path is told apart from them; the name of a language may be anything, and then shows up in the
result.
-/

namespace Recast

/-! ## Names that need not be texts -/

/-- A part of what a user writes: a character, or a byte that belongs to none. -/
inductive Glyph
  | char (c : Char)
  | stray (byte : UInt8)
deriving Repr, DecidableEq

namespace Glyph

/-- The character that the part is. -/
def char? : Glyph → Option Char
  | char c => some c
  | stray _ => none

/-- The part as it is shown: a stray byte by its number. -/
def shown : Glyph → List Char
  | char c => [c]
  | stray byte => "\\udc".toList ++ Text.hex 2 byte.toNat

end Glyph

/-- What a user has written, be it a text or not. -/
abbrev RawText := List Glyph

namespace RawText

/-- What is written as a text. -/
def ofText (text : String) : RawText := text.toList.map .char

/-- The text that has been written, if it is one. -/
def text? (raw : RawText) : Option String := (raw.mapM Glyph.char?).map String.ofList

/-- What has been written, as it is shown. -/
def shown (raw : RawText) : String := String.ofList (raw.flatMap Glyph.shown)

end RawText

/-! ## Commands -/

/-- The request to recast a file. -/
structure Order where
  /-- The path of the file. -/
  path : String
  source : RawText
  target : RawText
  /-- Where the result is to be written. -/
  output : Option String := none
  /-- The result is to be written as an object. -/
  asObject : Bool := false
  /-- The path of the settings. -/
  settings : Option String := none
  /-- Every message is to be shown. -/
  verbose : Bool := false
deriving Repr, DecidableEq

/-- The names of both languages are texts. -/
def Order.hasTextNames (order : Order) : Bool :=
  order.source.text?.isSome && order.target.text?.isSome

/-- What a user can ask for. -/
inductive Command
  | recast (order : Order)
  | languages
  | pairs
  /-- A file with the default settings. -/
  | initSettings (path : String)
  | version
deriving Repr, DecidableEq

/-- What arguments come to. -/
inductive Invocation
  | call (command : Command)
  /-- The arguments have been answered before any command is reached, with help or a complaint, in
  words that are not said here. -/
  | ended (exitCode : Nat)
deriving Repr, DecidableEq

namespace Command

/-! ## Options -/

/-- An option: of the request to recast a file, or the wish for help that any command takes. -/
inductive Flag
  | help
  | source
  | target
  | output
  | object
  | settings
  | verbose
deriving Repr, DecidableEq

namespace Flag

/-- The option of that long name. -/
def ofLong? : String → Option Flag
  | "--help" => some .help
  | "--from" => some .source
  | "--to" => some .target
  | "--output" => some .output
  | "--json" => some .object
  | "--config" => some .settings
  | "--verbose" => some .verbose
  | _ => none

/-- The option of that letter. -/
def ofShort? : Char → Option Flag
  | 's' => some .source
  | 't' => some .target
  | 'o' => some .output
  | 'c' => some .settings
  | 'v' => some .verbose
  | _ => none

/-- The option has a value. -/
def takesValue : Flag → Bool
  | .help | .object | .verbose => false
  | _ => true

end Flag

/-- Options in one argument: those without a value, and perhaps a last one with a value, if the
argument holds it. -/
structure FlagRow where
  plain : List Flag := []
  valued : Option (Flag × Option String) := none

/-- A row of short options. -/
def shortFlags? : List Char → Option FlagRow
  | [] => some {}
  | c :: rest => do
    let flag ← Flag.ofShort? c
    if flag.takesValue then
      some { valued := some (flag, if rest.isEmpty then none else some (String.ofList rest)) }
    else
      let row ← shortFlags? rest
      some { row with plain := flag :: row.plain }

/-- A long option. -/
def longFlag? (arg : List Char) : Option FlagRow := do
  let name := arg.takeWhile (· != '=')
  let value := if arg.contains '=' then some (String.ofList (arg.drop (name.length + 1))) else none
  let flag ← Flag.ofLong? (String.ofList name)
  if flag.takesValue then some { valued := some (flag, value) }
  else if value.isNone then some { plain := [flag] }
  else none

/-- The options that an argument holds, if it is written as options. -/
def flags? (arg : String) : Option (Option FlagRow) :=
  match arg.toList with
  | '-' :: '-' :: rest => some (longFlag? ('-' :: '-' :: rest))
  | '-' :: c :: rest => some (shortFlags? (c :: rest))
  | _ => none

/-- What the arguments say: options with their values, and all other arguments. -/
structure Arguments where
  flags : List (Flag × String) := []
  others : List String := []

/-- The arguments with some options more in front. -/
def Arguments.withFlags (arguments : Arguments) (flags : List (Flag × String)) : Arguments :=
  { arguments with flags := flags ++ arguments.flags }

/-- What the arguments say, if the first of them is the value that `awaited` waits for. -/
def readFrom : (awaited : Option Flag) → List String → Option Arguments
  | none, [] => some {}
  | some _, [] => none
  | some flag, value :: rest => (readFrom none rest).map (·.withFlags [(flag, value)])
  | none, "--" :: rest => some { others := rest }
  | none, arg :: rest =>
    match flags? arg with
    | none => (readFrom none rest).map fun a => { a with others := arg :: a.others }
    | some none => none
    | some (some row) =>
      let plain := row.plain.map fun flag => (flag, "")
      match row.valued with
      | none => (readFrom none rest).map (·.withFlags plain)
      | some (flag, some value) =>
        (readFrom none rest).map (·.withFlags (plain ++ [(flag, value)]))
      | some (flag, none) => (readFrom (some flag) rest).map (·.withFlags plain)

/-- What the arguments say, if they are well written. -/
def readArguments (args : List String) : Option Arguments := readFrom none args

/-- The value of an option: the last one that is given. -/
def Arguments.value? (arguments : Arguments) (flag : Flag) : Option String :=
  arguments.flags.reverse.lookup flag

/-! ## Commands -/

/-- The request that the arguments say. An empty value counts as none where one may be left out. -/
def order? (arguments : Arguments) : Option Order := do
  let [path] := arguments.others | none
  let source ← arguments.value? .source
  let target ← arguments.value? .target
  some
    { path, source := .ofText source, target := .ofText target
      output := (arguments.value? .output).filter (· != "")
      asObject := (arguments.value? .object).isSome
      settings := (arguments.value? .settings).filter (· != "")
      verbose := (arguments.value? .verbose).isSome }

/-- What the arguments of a command without options say. -/
def readPlain (args : List String) : Option Arguments :=
  (readArguments args).filter fun arguments => arguments.flags.all (·.1 == .help)

/-- The arguments that are no options, of which there are at most `most`. -/
def others? (most : Nat) (arguments : Arguments) : Option (List String) :=
  if arguments.others.length ≤ most then some arguments.others else none

end Command

namespace Invocation

/-- Help has been given. -/
def helped : Invocation := ended 0

/-- The arguments make no sense. -/
def misused : Invocation := ended 2

/-- What well-written arguments come to: help before the command that they say. -/
def ofRead (read : Option Command.Arguments)
    (command? : Command.Arguments → Option Command) : Invocation :=
  match read with
  | none => misused
  | some arguments =>
    if (arguments.value? .help).isSome then helped
    else ((command? arguments).map call).getD misused

/-- What the arguments of the command of that name come to. -/
def ofName (name : String) (args : List String) : Invocation :=
  match name with
  | "translate" => ofRead (Command.readArguments args) fun arguments =>
      (Command.order? arguments).map .recast
  | "languages" => ofRead (Command.readPlain args) fun arguments =>
      (Command.others? 0 arguments).map fun _ => .languages
  | "pairs" => ofRead (Command.readPlain args) fun arguments =>
      (Command.others? 0 arguments).map fun _ => .pairs
  | "init-config" => ofRead (Command.readPlain args) fun arguments =>
      (Command.others? 1 arguments).map fun others => .initSettings (others.headD "rulemorph.yaml")
  | "version" => ofRead (Command.readPlain args) fun arguments =>
      (Command.others? 0 arguments).map fun _ => .version
  | _ => misused

/-- **What arguments come to.** -/
def ofArguments : List String → Invocation
  | "--" :: name :: args => ofName name args
  | "--help" :: _ => helped
  | name :: args => ofName name args
  | [] => misused

end Invocation

end Recast

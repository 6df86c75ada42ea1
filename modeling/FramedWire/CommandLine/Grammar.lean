/-!
# Grammars of command lines

How the words behind a program's name become settings. An option stands anywhere; a bare
word goes to the next positional. The value of an option may be attached to it or be the
next word. A value is checked when the next option or positional begins, or at the end, so
a request for help may come before the complaint about an earlier word.

A grammar may name commands. Reading then stops at the first bare word that is one, and
what follows is read by the grammar of that command.
-/
namespace FramedWire.CommandLine

/-- Why words are no settings. The first two grant a wish, and the others are mistakes. -/
inductive Refusal where
  | displayHelp | displayVersion
  | displayHelpOnMissing | missingSubcommand | invalidSubcommand | unknownArgument
  | invalidValue | valueValidation | missingRequiredArgument | argumentConflict | tooManyValues
  deriving DecidableEq, Repr

def Refusal.exitCode : Refusal → Nat
  | .displayHelp | .displayVersion => 0
  | _ => 2

/-- How a word changes the settings. -/
abbrev Setter (α : Type) := String → α → Except Refusal α

inductive Action (α : Type) where
  | help | version
  /-- An option without a value. -/
  | switch (set : α → Except Refusal α)
  | value (set : Setter α)

structure OptionSpec (α : Type) where
  long : String
  short? : Option Char := none
  action : Action α

structure Positional (α : Type) where
  set : Setter α
  /-- Takes all words from its first one on, and for this one also a word that looks like
  an option, if there is no such option. -/
  greedy : Bool := false

structure Grammar (α : Type) where
  options : List (OptionSpec α)
  positionals : List (Positional α) := []
  commands : List String := []

/-- What was begun and is not checked yet. -/
inductive Pending (α : Type) where
  | nothing
  /-- An option whose value is still to come. -/
  | awaiting (set : Setter α)
  | ready (set : α → Except Refusal α)

structure Progress (α : Type) where
  settings : α
  pending : Pending α := .nothing
  /-- The positionals to come; the first of them gets the next bare word. -/
  positionals : List (Positional α)
  /-- No word is an option any more. -/
  literal : Bool := false

namespace Progress

variable {α : Type}

/-- Check what is pending. -/
def settle (p : Progress α) : Except Refusal (Progress α) :=
  match p.pending with
  | .nothing => .ok p
  | .awaiting _ => .error .invalidValue
  | .ready set => (set p.settings).map fun settings => { p with settings, pending := .nothing }

/-- Whether the next bare word may look like an option. -/
def isLenient (p : Progress α) : Bool := p.positionals.head?.any (·.greedy)

/-- Whether the next word is the value of an option. -/
def isAwaiting (p : Progress α) : Bool :=
  match p.pending with
  | .awaiting _ => true
  | _ => false

end Progress

namespace Action

variable {α : Type}

/-- An option, with the value attached to it, if there is one. -/
def perform (action : Action α) (attached? : Option String) (p : Progress α) :
    Except Refusal (Progress α) := do
  match action, attached? with
  | .value set, some text =>
    let p ← p.settle
    (set text p.settings).map fun settings => { p with settings }
  | .value set, none =>
    let p ← p.settle
    .ok { p with pending := .awaiting set }
  | _, some _ => .error .tooManyValues
  | .switch set, none =>
    let p ← p.settle
    (set p.settings).map fun settings => { p with settings }
  | .help, none =>
    let _ ← p.settle
    .error .displayHelp
  | .version, none =>
    let _ ← p.settle
    .error .displayVersion

def takesValue : Action α → Bool
  | .value _ => true
  | _ => false

end Action

namespace Grammar

variable {α : Type} (g : Grammar α)

def long? (name : String) : Option (OptionSpec α) := g.options.find? (·.long = name)

def short? (c : Char) : Option (OptionSpec α) := g.options.find? (·.short? = some c)

/-- Nothing in the grammar takes this bare word. -/
def refuse (p : Progress α) (word : String) : Refusal :=
  if g.commands.isEmpty || (p.literal && g.commands.contains word) then .unknownArgument
  else .invalidSubcommand

/-- Give a word to the next positional. -/
def place (word : String) (p : Progress α) : Except Refusal (Progress α) :=
  match p.positionals with
  | [] => .error (g.refuse p word)
  | pos :: rest => do
    let p ← p.settle
    .ok { p with
      pending := .ready (pos.set word)
      positionals := if pos.greedy then pos :: rest else rest
      literal := p.literal || pos.greedy }

/-- A word that is no option: the value of one, or a positional. -/
def bare (word : String) (p : Progress α) : Except Refusal (Progress α) :=
  match p.pending with
  | .awaiting set => .ok { p with pending := .ready (set word) }
  | _ => g.place word p

/-- The text behind a short option, which an equals sign may set off. -/
def attachment? : List Char → Option String
  | [] => none
  | '=' :: cs => some (String.ofList cs)
  | cs => some (String.ofList cs)

/-- Short options in one word. One that takes a value ends the word. -/
def cluster : List Char → Progress α → Except Refusal (Progress α)
  | [], p => .ok p
  | c :: cs, p =>
    match g.short? c with
    | none => .error .unknownArgument
    | some spec =>
      if spec.action.takesValue then spec.action.perform (attachment? cs) p
      else do cluster cs (← spec.action.perform none p)

/-- What stands before and behind the first equals sign. -/
def splitAssignment (cs : List Char) : String × Option String :=
  let name := cs.takeWhile (· ≠ '=')
  let rest := cs.dropWhile (· ≠ '=')
  (String.ofList name, if rest.isEmpty then none else some (String.ofList rest.tail))

/-- One word, as long as options are recognized. -/
def word (text : String) (p : Progress α) : Except Refusal (Progress α) :=
  match text.toList with
  | ['-', '-'] => .ok { p with literal := true }
  | '-' :: '-' :: cs =>
    let (name, attached?) := splitAssignment cs
    match g.long? name with
    | some spec => spec.action.perform attached? p
    | none => if p.isLenient then g.bare text p else .error .unknownArgument
  | '-' :: c :: cs =>
    if p.isLenient && (c :: cs).any (g.short? · |>.isNone) then g.bare text p
    else g.cluster (c :: cs) p
  | _ => g.bare text p

/-- Read words up to the first command. The result holds what is pending, and the command
with the words behind it. -/
def scan : List String → Progress α →
    Except Refusal (Progress α × Option (String × List String))
  | [], p => .ok (p, none)
  | text :: texts, p =>
    if p.literal then do scan texts (← g.place text p)
    else if !p.isAwaiting && g.commands.contains text then .ok (p, some (text, texts))
    else do scan texts (← g.word text p)

def start (settings : α) : Progress α := { settings, positionals := g.positionals }

/-- The settings that all words make, for a grammar without commands. -/
def read (settings : α) (texts : List String) : Except Refusal α := do
  let (p, _) ← g.scan texts (g.start settings)
  return (← p.settle).settings

end Grammar

end FramedWire.CommandLine

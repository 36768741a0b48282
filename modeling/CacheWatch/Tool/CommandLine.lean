import CacheWatch.Number.Word
import CacheWatch.Text.Digits

/-! The command lines of the two tools.
An option that takes a value takes it from the same word or from the next one, which must not
look like an option itself. What is wrong first decides.
-/
namespace CacheWatch.Tool

inductive Program where
  | status
  | listen
deriving DecidableEq, Repr

def Program.name : Program → String
  | status => "stockpile-status"
  | listen => "stockpile-listen"

structure Options where
  server : Option String
  path : Option String
  config : Option String
  /-- In seconds. -/
  timeout : Option Nat
  verbosity : Nat
deriving DecidableEq, Repr

namespace Options

def none : Options := ⟨.none, .none, .none, .none, 0⟩

def defaultTimeout : Nat := 5

def timeoutSeconds (o : Options) : Nat := o.timeout.getD defaultTimeout

end Options

inductive Invocation where
  | run (options : Options)
  | version
  | help
  | misuse
deriving DecidableEq, Repr

inductive Valued where
  | server
  | path
  | config
  | timeout
deriving DecidableEq, Repr

inductive Flag where
  | verbose
  | version
  | help
deriving DecidableEq, Repr

inductive Switch where
  | valued (option : Valued)
  | flag (flag : Flag)
deriving DecidableEq, Repr

def long? (program : Program) (name : String) : Option Switch :=
  match name, program with
  | "server", _ => some (.valued .server)
  | "path", _ => some (.valued .path)
  | "config", _ => some (.valued .config)
  | "timeout", .status => some (.valued .timeout)
  | "verbose", .listen => some (.flag .verbose)
  | "version", _ => some (.flag .version)
  | "help", _ => some (.flag .help)
  | _, _ => none

def short? (program : Program) (name : Char) : Option Switch :=
  match name, program with
  | 's', _ => some (.valued .server)
  | 'c', _ => some (.valued .config)
  | 't', .status => some (.valued .timeout)
  | 'v', .listen => some (.flag .verbose)
  | 'V', _ => some (.flag .version)
  | 'h', _ => some (.flag .help)
  | _, _ => none

/-- A number that fits an unsigned 64-bit word; a plus sign may precede it. -/
def wordOf? (text : String) : Option Nat :=
  let ds := match text.toList with
    | '+' :: rest => rest
    | cs => cs
  let n := Text.decimalValue ds
  if !ds.isEmpty && ds.all Char.isDigit && Word.fits 64 n then some n else none

def once (field : Option α) (value : Option α) : Option (Option α) :=
  match field, value with
  | none, some value => some (some value)
  | _, _ => none

def Options.set? (o : Options) (option : Valued) (value : String) : Option Options :=
  match option with
  | .server => (once o.server (some value)).map (fun server => { o with server })
  | .path => (once o.path (some value)).map (fun path => { o with path })
  | .config =>
    if value.isEmpty then .none
    else (once o.config (some value)).map (fun config => { o with config })
  | .timeout => (once o.timeout (wordOf? value)).map (fun timeout => { o with timeout })

inductive Progress where
  | next (options : Options) (pending : Option Valued)
  | stop (invocation : Invocation)
deriving DecidableEq, Repr

def Progress.ofSet (o : Option Options) : Progress :=
  match o with
  | some o => .next o none
  | none => .stop .misuse

def onFlag (o : Options) : Flag → Progress
  | .verbose => .next { o with verbosity := o.verbosity + 1 } none
  | .version => .stop .version
  | .help => .stop .help

/-- A word with two hyphens in front; its value stands behind an equals sign. -/
def onLong (program : Program) (o : Options) (word : List Char) : Progress :=
  let name := String.ofList (word.takeWhile (· ≠ '='))
  let value := match word.dropWhile (· ≠ '=') with
    | [] => none
    | _ :: value => some (String.ofList value)
  match long? program name, value with
  | some (.valued option), some value => .ofSet (o.set? option value)
  | some (.valued option), none => .next o (some option)
  | some (.flag flag), none => onFlag o flag
  | _, _ => .stop .misuse

/-- A word with one hyphen in front: flags, and at most one option with its value behind it. -/
def onShort (program : Program) (o : Options) : List Char → Progress
  | [] => .next o none
  | c :: rest =>
    match short? program c with
    | none => .stop .misuse
    | some (.valued option) =>
      match rest with
      | [] => .next o (some option)
      | '=' :: value => .ofSet (o.set? option (String.ofList value))
      | value => .ofSet (o.set? option (String.ofList value))
    | some (.flag flag) =>
      match onFlag o flag with
      | .next o _ => onShort program o rest
      | stop => stop

/-- A word that is no value: a hyphen with something behind it. -/
def looksLikeOption (word : List Char) : Bool :=
  match word with
  | '-' :: _ :: _ => true
  | _ => false

def onWord (program : Program) (o : Options) (pending : Option Valued) (word : String) : Progress :=
  match pending with
  | some option =>
    if looksLikeOption word.toList then .stop .misuse else .ofSet (o.set? option word)
  | none =>
    match word.toList with
    | '-' :: '-' :: rest => onLong program o rest
    | '-' :: c :: rest => onShort program o (c :: rest)
    | _ => .stop .misuse

/-- Two hyphens alone end the options; nothing may follow them. -/
def parseFrom (program : Program) (o : Options) (pending : Option Valued) :
    List String → Invocation
  | [] => if pending.isSome then .misuse else .run o
  | word :: rest =>
    if word = "--" then (if pending.isNone && rest.isEmpty then .run o else .misuse)
    else
      match onWord program o pending word with
      | .next o pending => parseFrom program o pending rest
      | .stop invocation => invocation

def parse (program : Program) (words : List String) : Invocation :=
  parseFrom program .none none words

end CacheWatch.Tool

-- The command line. Options may stand anywhere; what is no option names the
-- image. A short option may share its dash with others, and an option may
-- have its value behind it or attached to it. After two dashes nothing is an
-- option any more. Only `-v` may be repeated.

namespace SixStage

/-- What a run is asked to do. -/
structure Invocation where
  program : Option String
  config : Option String
  traceDir : Option String
  noTrace : Bool
  maxCycles : Option Nat
  verbose : Nat
  deriving DecidableEq, Repr, Inhabited

/-- The options that take a value. -/
inductive ValueOption where
  | config
  | traceDir
  | maxCycles
  deriving DecidableEq, Repr

/-- What is asked for in place of a run. -/
inductive Refusal where
  /-- The arguments make no sense. -/
  | usage
  | help
  | version
  deriving DecidableEq, Repr

namespace Invocation

def empty : Invocation := ⟨none, none, none, false, none, 0⟩

/-- The number that decimal digits make, if it has less than 64 bits. A plus may
stand before them. -/
def cycles? (text : String) : Option Nat :=
  let digits :=
    match text.toList with
    | '+' :: l => l
    | l => l
  if digits.isEmpty || !digits.all Char.isDigit then none
  else
    let n := digits.foldl (fun n c => 10 * n + (c.toNat - 48)) 0
    if n < Nat.pow 2 64 then some n else none

/-- Gives an option its value, once. Paths are not empty. -/
def give (i : Invocation) (o : ValueOption) (text : String) : Except Refusal Invocation :=
  match o with
  | .config =>
    if text.isEmpty || i.config.isSome then .error .usage else .ok { i with config := some text }
  | .traceDir =>
    if text.isEmpty || i.traceDir.isSome then .error .usage
    else .ok { i with traceDir := some text }
  | .maxCycles =>
    match cycles? text with
    | none => .error .usage
    | some n => if i.maxCycles.isSome then .error .usage else .ok { i with maxCycles := some n }

def name (i : Invocation) (text : String) : Except Refusal Invocation :=
  if text.isEmpty || i.program.isSome then .error .usage else .ok { i with program := some text }

/-- Where the reading of the arguments stands. -/
structure Progress where
  invocation : Invocation
  /-- The option whose value comes next. -/
  pending : Option ValueOption
  /-- Two dashes have passed. -/
  trailing : Bool
  deriving DecidableEq, Repr

/-- A long option without its dashes, and the value attached to it. -/
def longOption (i : Invocation) (name : String) (attached : Option String) :
    Except Refusal Progress :=
  let valued (o : ValueOption) : Except Refusal Progress :=
    match attached with
    | none => .ok ⟨i, some o, false⟩
    | some text => (i.give o text).map fun i => ⟨i, none, false⟩
  match name with
  | "config" => valued .config
  | "trace-dir" => valued .traceDir
  | "max-cycles" => valued .maxCycles
  | "no-trace" =>
    if attached.isSome || i.noTrace then .error .usage
    else .ok ⟨{ i with noTrace := true }, none, false⟩
  | "verbose" =>
    if attached.isSome then .error .usage
    else .ok ⟨{ i with verbose := i.verbose + 1 }, none, false⟩
  | "help" => .error (if attached.isSome then .usage else .help)
  | "version" => .error (if attached.isSome then .usage else .version)
  | _ => .error .usage

/-- Short options that share a dash. The rest behind one that takes a value is the
value, and an equals sign before it does not count. -/
def shortOptions (i : Invocation) : List Char → Except Refusal Progress
  | [] => .ok ⟨i, none, false⟩
  | 'v' :: l => shortOptions { i with verbose := i.verbose + 1 } l
  | 'h' :: _ => .error .help
  | 'V' :: _ => .error .version
  | ['c'] => .ok ⟨i, some .config, false⟩
  | 'c' :: '=' :: l => (i.give .config (String.ofList l)).map fun i => ⟨i, none, false⟩
  | 'c' :: l => (i.give .config (String.ofList l)).map fun i => ⟨i, none, false⟩
  | _ :: _ => .error .usage

/-- An argument that starts with a dash and is not only one. -/
def option (i : Invocation) (arg : List Char) : Except Refusal Progress :=
  match arg with
  | ['-', '-'] => .ok ⟨i, none, true⟩
  | '-' :: '-' :: l =>
    let name := l.takeWhile fun c => c ≠ '='
    match l.dropWhile fun c => c ≠ '=' with
    | [] => longOption i (String.ofList name) none
    | _ :: value => longOption i (String.ofList name) (some (String.ofList value))
  | '-' :: l => shortOptions i l
  | _ => .error .usage

def argument (p : Progress) (arg : String) : Except Refusal Progress :=
  let i := p.invocation
  if p.trailing then (i.name arg).map fun i => ⟨i, none, true⟩
  else if arg.startsWith "-" && arg ≠ "-" then
    if p.pending.isSome then .error .usage else i.option arg.toList
  else
    match p.pending with
    | some o => (i.give o arg).map fun i => ⟨i, none, false⟩
    | none => (i.name arg).map fun i => ⟨i, none, false⟩

/-- Reads all arguments. The first one that is wrong, or that asks for something
else than a run, ends the reading. -/
def arguments (p : Progress) : List String → Except Refusal Progress
  | [] => .ok p
  | arg :: rest =>
    match argument p arg with
    | .error e => .error e
    | .ok p => arguments p rest

/-- What some arguments ask for, with the path of the image. -/
def ofArguments (args : List String) : Except Refusal (Invocation × String) :=
  match arguments ⟨empty, none, false⟩ args with
  | .error e => .error e
  | .ok p =>
    match p.pending, p.invocation.program with
    | none, some program => .ok (p.invocation, program)
    | _, _ => .error .usage

end Invocation

end SixStage

import TypeExchange.Failure
import TypeExchange.Inspection
import TypeExchange.Json.Printer
import TypeExchange.Unicode.LowerCase

/-! The log: events with a level, the lines in which they are written, and computations that may
fail and log events on their way. -/
namespace TypeExchange
namespace Log

/-- How much an event matters, from most to least. -/
inductive Level where
  | error | warn | info | debug
  deriving DecidableEq, Repr

namespace Level

def rank : Level → Nat
  | error => 0
  | warn => 1
  | info => 2
  | debug => 3

def name : Level → String
  | error => "ERROR"
  | warn => "WARN"
  | info => "INFO"
  | debug => "DEBUG"

/-- The level that a word asks for, in letters of either case. A word that names no level asks for
`info`. -/
def ofWord (word : String) : Level :=
  match Unicode.lowerCase word with
  | "debug" => debug
  | "warn" => warn
  | "error" => error
  | _ => info

end Level

inductive Layout where
  | text | json
  deriving DecidableEq, Repr

def Layout.ofWord (word : String) : Layout := if word = "json" then json else text

/-- A value that an event carries: a text as it stands, a text to be quoted, or a number. -/
inductive Value where
  | plain (text : String)
  | quoted (text : String)
  | count (n : Nat)
  deriving DecidableEq, Repr

/-- An event with a message, which is put together from its parts, and with further values. -/
structure Event where
  level : Level
  message : List Value
  fields : List (String × Value)
  deriving DecidableEq, Repr

/-- An event that is written, in some layout. -/
structure Line where
  layout : Layout
  event : Event
  deriving DecidableEq, Repr

/-- What a user wants to see of the log. -/
structure Settings where
  level : Level
  layout : Layout
  deriving DecidableEq, Repr

def Settings.ofWords (verbosity format : String) : Settings :=
  ⟨.ofWord verbosity, .ofWord format⟩

/-- Events that matter less than the level are not written. -/
def Settings.lines (s : Settings) (events : List Event) : List Line :=
  (events.filter fun e => e.level.rank ≤ s.level.rank).map (⟨s.layout, ·⟩)

/-- How a line looks. The number counts the lines: each has a time of its own, and whether there
are colours depends on where it is written. -/
abbrev Writer := Nat → Line → String

def text (write : Writer) (lines : List Line) : String :=
  String.join (lines.zipIdx.map fun l => write l.2 l.1)

@[simp] theorem text_nil (write : Writer) : text write [] = "" := rfl

def Value.text : Value → String
  | plain text => text
  | quoted text => inspectText text
  | count n => toString n

def Value.toJson : Value → Json
  | plain text | quoted text => .string text
  | count n => .integer n

def Event.messageText (e : Event) : String := String.join (e.message.map Value.text)

def Event.text (e : Event) : String :=
  e.level.name ++ " " ++ e.messageText ++
    String.join (e.fields.map fun f => " " ++ f.1 ++ "=" ++ f.2.text)

def Event.toJson (e : Event) : Json :=
  .object [("level", .string e.level.name), ("fields", .object
    (("message", .string e.messageText) :: e.fields.map fun f => (f.1, f.2.toJson)))]

/-- A line without time and colours. -/
def Line.plain : Writer := fun _ line =>
  (match line.layout with
    | .text => line.event.text
    | .json => line.event.toJson.compact) ++ "\n"

end Log

/-- What comes of a computation, and the events on the way. -/
structure Logged (α : Type) where
  events : List Log.Event
  result : Except Failure α

namespace Logged

variable {α β : Type}

def log (event : Log.Event) : Logged Unit := ⟨[event], .ok ()⟩

/-- What has been logged before a failure stays in the log. -/
instance : Monad Logged where
  pure a := ⟨[], .ok a⟩
  bind x f :=
    match x.result with
    | .ok a => ⟨x.events ++ (f a).events, (f a).result⟩
    | .error e => ⟨x.events, .error e⟩

/-- A computation that logs nothing. -/
instance : MonadLift (Except Failure) Logged := ⟨fun x => ⟨[], x⟩⟩

@[simp] theorem log_result (event : Log.Event) : (log event).result = .ok () := rfl

@[simp] theorem pure_result (a : α) : (pure a : Logged α).result = pure a := rfl

@[simp] theorem lift_result (x : Except Failure α) : (liftM x : Logged α).result = x := rfl

@[simp] theorem bind_result (x : Logged α) (f : α → Logged β) :
    (x >>= f).result = x.result >>= fun a => (f a).result := by
  obtain ⟨events, _ | a⟩ := x <;> rfl

theorem bind_events_of_ok {x : Logged α} {a : α} (h : x.result = .ok a) (f : α → Logged β) :
    (x >>= f).events = x.events ++ (f a).events := by
  obtain ⟨events, result⟩ := x
  subst h
  rfl

theorem bind_events_of_error {x : Logged α} {e : Failure} (h : x.result = .error e)
    (f : α → Logged β) : (x >>= f).events = x.events := by
  obtain ⟨events, result⟩ := x
  subst h
  rfl

end Logged
end TypeExchange

import BeaconCheck.Browser.Call
import BeaconCheck.Value.Same

/-!
# Scripted pages

A page that follows a script: what its event layers hold, which calls fail, and what
happens in reaction to a call, at once or after a while.
-/

namespace BeaconCheck

/-- The calls that a part of a script is about: those of a name, or of a name and a first
argument. -/
structure Trigger where
  name : String
  argument : Option Value := none
deriving Repr, Inhabited

/-- The call is one that the trigger is about. -/
def Trigger.covers (t : Trigger) (c : Call) : Bool :=
  t.name == c.name &&
    match t.argument with
    | none => true
    | some v =>
      match c.arguments with
      | first :: _ => v.same first
      | [] => false

/-- A failure of the next calls that it is about, as often as it is left. -/
structure ScriptedFailure where
  trigger : Trigger
  left : Int := 1
  error : BrowserError
deriving Repr, Inhabited

/-- What happens on a page at one moment: requests are sent, and then entries are pushed to
event layers. -/
structure Happening where
  urls : List String := []
  pushes : List (Text × Value) := []
deriving Repr, Inhabited

/-- What happens in reaction to a call, at once if there is no delay. -/
structure Reaction where
  trigger : Trigger
  delay : Option Rat := none
  happening : Happening
deriving Repr, Inhabited

/-- A page that follows a script. -/
structure Page where
  layers : Entries Text Value := []
  failures : List ScriptedFailure := []
  reactions : List Reaction := []
deriving Repr, Inhabited

namespace Page

/-- Uses one of the failures of a call up: the first that is left. -/
def failAt (c : Call) : List ScriptedFailure → Option (BrowserError × List ScriptedFailure)
  | [] => none
  | f :: rest =>
    if f.trigger.covers c && 0 < f.left then
      some (f.error, { f with left := f.left - 1 } :: rest)
    else (failAt c rest).map fun p => (p.1, f :: p.2)

/-- The reactions to a call. -/
def reactionsTo (p : Page) (c : Call) : List Reaction :=
  p.reactions.filter fun r => r.trigger.covers c

/-- Pushes an entry to a layer, which is made if there is none. -/
def push (layers : Entries Text Value) (name : Text) (entry : Value) :
    Entries Text Value :=
  match Entries.get? layers name with
  | none => Entries.insert layers name (.list [entry])
  | some (.list items) => Entries.insert layers name (.list (items ++ [entry]))
  | some _ => layers

/-- What a layer holds; null if there is none. -/
def layer (p : Page) (name : Text) : Value :=
  (Entries.get? p.layers name).getD .null

/-! ## Reading scripts -/

/-- The items of a list, none for any other value. -/
def itemsOf (v : Value) : List Value := v.items?.getD []

/-- The entries of an object, none for any other value. -/
def entriesOf (v : Value) : List (Scalar × Value) := v.entries?.getD []

/-- A text, empty for any other value. -/
def textOf (v : Value) : Text := v.text?.getD ""

/-- A text of a script that names a call or is a URL. -/
def stringOf (v : Value) : String := (textOf v).shown

/-- The calls that a part of a script is about. -/
def triggerOf (data : List (Scalar × Value)) : Trigger where
  name := stringOf (Value.field data "on")
  argument := Value.field? data "arg"

/-- The kind of a scripted failure. -/
def errorKindOf (v : Value) : BrowserErrorKind :=
  match stringOf v with
  | "timeout" => .timeout
  | "runtime" => .runtime
  | "value" => .value
  | _ => .error

/-- A scripted failure. -/
def failureOf (v : Value) : ScriptedFailure :=
  let data := entriesOf v
  { trigger := triggerOf data
    left :=
      match Value.field data "times" with
      | .int n => n
      | _ => 1
    error := ⟨errorKindOf (Value.field data "kind"), textOf (Value.field data "message")⟩ }

/-- A push to a layer. -/
def pushOf (v : Value) : Text × Value :=
  match v with
  | .list (name :: entry :: _) => (textOf name, entry)
  | _ => ("", .null)

/-- A reaction. -/
def reactionOf (v : Value) : Reaction :=
  let data := entriesOf v
  { trigger := triggerOf data
    delay :=
      match Value.field data "delay" with
      | .number n => n.toRat?
      | _ => none
    happening := {
      urls := (itemsOf (Value.field data "urls")).map stringOf
      pushes := (itemsOf (Value.field data "push")).map pushOf } }

/-- Reads a script. What it does not say is empty. -/
def ofValue (v : Value) : Page :=
  let data := entriesOf v
  { layers := (entriesOf (Value.field data "layers")).map fun p => (textOf (.scalar p.1), p.2)
    failures := (itemsOf (Value.field data "fail")).map failureOf
    reactions := (itemsOf (Value.field data "events")).map reactionOf }

end Page

end BeaconCheck

/-
# Clearance.Request -- checking a request before it is decided

A request names a command and carries arguments.  It is valid when the name is
registered, the arguments are an object, and the validator of arguments has
nothing against them, checked in this order.  Asking for a name that is not
registered is recorded; looking a name up is not.
-/
import Clearance.Event
import Clearance.Registry.Document

namespace Clearance

open Clearance.Json

set_option autoImplicit false

/-- Why a registry does not serve a request. -/
inductive RegistryError where
  | unknownCommand (name : String)
  | argsNotObject (kind : String)
  | invalidArgs (command reason : String)
  | malformedDocument (detail : String)
deriving DecidableEq

def RegistryError.message : RegistryError → String
  | unknownCommand name => "unknown command: " ++ name
  | argsNotObject kind => "args must be an object, got " ++ kind
  | invalidArgs command reason => "invalid args for " ++ command ++ ": " ++ reason
  | malformedDocument detail => "malformed registry: " ++ detail

/-- A check of a command's arguments. -/
abbrev ArgsValidator := Entry → List (String × Value) → Except RegistryError Unit

namespace ArgsValidator

/-- Leaves arguments to the command itself. -/
def deferred : ArgsValidator :=
  fun _ _ => .ok ()

/-- Refuses any argument. -/
def noArguments : ArgsValidator := fun entry args =>
  if args.isEmpty then .ok () else .error (.invalidArgs entry.name "takes no arguments")

/-- Asks for arguments under all of the keys; the first missing one is named. -/
def requireKeys (keys : List String) : ArgsValidator := fun entry args =>
  match keys.find? fun key => (args.lookup key).isNone with
  | some key => .error (.invalidArgs entry.name ("missing " ++ Wire.ticked key))
  | none => .ok ()

end ArgsValidator

/-- The registry a document describes; recorded if there is one. -/
def Registry.ofDocumentLogged (doc : Value) : Logged (Except RegistryError Registry) :=
  match Registry.ofDocument doc with
  | .error fault => return .error (.malformedDocument fault.message)
  | .ok r => do
      Logged.emit (.registryBuilt r.size)
      return .ok r

section

variable {ρ : Type} [CommandSource ρ]

/-- Check a request. -/
def validateLogged (source : ρ) (validator : ArgsValidator) (name : String) (args : Value) :
    Logged (Except RegistryError Unit) :=
  match CommandSource.get? source name with
  | none => do
      Logged.emit (.commandUnknown name)
      return .error (.unknownCommand name)
  | some entry =>
      match args with
      | .object members => return validator entry members
      | args => return .error (.argsNotObject args.kind.name)

/-- The profile a command requires. -/
def requirement (source : ρ) (name : String) : Except RegistryError Profile :=
  match CommandSource.get? source name with
  | none => .error (.unknownCommand name)
  | some entry => .ok entry.required

end

end Clearance

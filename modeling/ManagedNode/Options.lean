import ManagedNode.Text.Blank

/-!
What a machine is asked to bring up, and how two environment variables say so.

* `Options`: whether requests are served, and whether the standard states are loaded.
* `Options.readSwitch`: the words for yes and no, between any blanks and in either case.
* `Options.ofLookup`: the options for any way of looking up a variable, each variable asked
  for once; `Options.ofEnvironment` reads the bytes of an environment.
-/

namespace ManagedNode

/-- What bringing a machine up includes; everything, unless it is switched off. -/
structure Options where
  /-- Serve requests, and not only announce transitions. -/
  services : Bool := true
  /-- Load the standard states and transitions. -/
  standardStates : Bool := true
  deriving DecidableEq, Repr, Inhabited

namespace Options

/-- The variable that switches the services. -/
def servicesVariable : String := "RCL_LIFECYCLE_ENABLE_COM_INTERFACE"

/-- The variable that switches the standard states. -/
def standardStatesVariable : String := "RCL_LIFECYCLE_INITIALIZE_DEFAULT_STATES"

/-- The words that switch something on. -/
def onWords : List String := ["1", "true", "yes", "on"]

/-- The words that switch something off. -/
def offWords : List String := ["0", "false", "no", "off"]

/-- A value without the blanks around it and with its ASCII letters in lower case. -/
def canonicalWord (value : String) : String :=
  String.ofList ((Text.Blank.trim value.toList).map Char.toLower)

/-- What a value says: on, off, or nothing that is understood. -/
def readSwitch (value : String) : Option Bool :=
  let word := canonicalWord value
  if word ∈ onWords then some true
  else if word ∈ offWords then some false
  else none

/-- What a variable says, if it is set and understood, and the default otherwise. -/
def switchOr (fallback : Bool) (value : Option String) : Bool :=
  (value.bind readSwitch).getD fallback

/-- The options for a way of looking up variables. Both variables are asked for, the one for
the services first; a value that is not understood counts as unset. -/
def ofLookup {m : Type → Type} [Monad m] (ask : String → m (Option String)) : m Options := do
  let services ← ask servicesVariable
  let standardStates ← ask standardStatesVariable
  pure ⟨switchOr true services, switchOr true standardStates⟩

/-- The options for an environment of bytes; a value that is not UTF-8 counts as unset. -/
def ofEnvironment (environment : String → Option ByteArray) : Options :=
  Id.run (ofLookup fun name => pure ((environment name).bind String.fromUTF8?))

/-- Each option hangs on its own variable alone. -/
theorem ofLookup_id (ask : String → Option String) :
    Id.run (ofLookup fun name => pure (ask name)) =
      ⟨switchOr true (ask servicesVariable), switchOr true (ask standardStatesVariable)⟩ := rfl

end Options

end ManagedNode

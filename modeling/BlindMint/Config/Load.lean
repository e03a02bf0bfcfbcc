import BlindMint.Config.Overlay

/-!
# Loading a configuration

A configuration is read from variables, overlaid by the document in the file that one of them names, if it
is set, and then accepted or refused as a whole. So the document can mend variables that would not do on
their own.

Results:
* `Settings.load_of_no_overlay`: where no file is named, variables alone decide.
-/

namespace BlindMint

/-- The files that can be read, by path: their text, or why they cannot be read. -/
abbrev Files := String → Except String String

namespace Settings

/-- The settings, if they are acceptable (`validate`). -/
def accept (s : Settings) : Except ConfigFault Settings :=
  match s.check with
  | none => .ok s
  | some condition => .error (.unacceptable condition)

/-- Load a configuration from variables alone (`from_env`). -/
def loadVariables (v : Variables) : Except ConfigFault Settings :=
  match ofVariables v with
  | .error fault => .error fault
  | .ok s => s.accept

/-- The settings under the overlay that a text writes. -/
def overlayFrom (s : Settings) (text : String) : Except ConfigFault Settings :=
  match Overlay.ofText? text with
  | none => .error .malformedOverlay
  | some o => s.overlay o

/-- The settings under the overlay in the file that the variables name, if they name one. -/
def overlayFile (s : Settings) (v : Variables) (files : Files) : Except ConfigFault Settings :=
  match v "ANONTOKEN_CONFIG" with
  | none => .ok s
  | some path =>
    match files path with
    | .error reason => .error (.noOverlay path reason)
    | .ok text => s.overlayFrom text

/-- Load a configuration from variables and the overlay that they name (`from_env_or_yaml`). -/
def load (v : Variables) (files : Files) : Except ConfigFault Settings :=
  match ofVariables v with
  | .error fault => .error fault
  | .ok s =>
    match s.overlayFile v files with
    | .error fault => .error fault
    | .ok s => s.accept

theorem load_of_no_overlay {v : Variables} (h : v "ANONTOKEN_CONFIG" = none) (files : Files) :
    load v files = loadVariables v := by
  unfold load loadVariables
  cases ofVariables v with
  | error fault => rfl
  | ok s => simp [overlayFile, h]

end Settings

end BlindMint

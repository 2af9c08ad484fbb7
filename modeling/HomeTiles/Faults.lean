import HomeTiles.Display
import HomeTiles.FileTree
import HomeTiles.JsonReader

/-!
# Faults: why an operation fails

`Fault` is what a store or storage operation can fail with, `FetchFault` what
fetching a listing can. A write that did not reach the storage is the one fault
that callers go on after: it is `unavailable`, with the `WriteFailure` inside.
`Fault.message` and `FetchFault.message` word those that have a text of their
own.
-/

namespace HomeTiles

/-- What went wrong while something stored was read or written. -/
inductive Cause where
  | file (fault : FileFault)
  | read (fault : ReadFault)
  | write (fault : WriteFault)
  /-- The bytes are no UTF-8 text. -/
  | undecodable
  /-- A text was needed and something else was there. -/
  | notText
  deriving DecidableEq, Repr

/-- The state that a settings file reports after it was written. -/
inductive SettingsStatus where
  | noError
  | accessError
  | formatError
  deriving DecidableEq, Repr

def SettingsStatus.name : SettingsStatus → String
  | .noError => "Status.NoError"
  | .accessError => "Status.AccessError"
  | .formatError => "Status.FormatError"

/-- Why a record did not reach the storage. -/
inductive WriteFailure where
  | disabled
  | notSerializable (cause : Cause)
  | settings (status : SettingsStatus)
  | file (path : Path) (cause : Cause)
  deriving DecidableEq, Repr

/-- The text of a write failure, up to the text of its cause. -/
def WriteFailure.message : WriteFailure → String
  | .disabled => "storage disabled"
  | .notSerializable _ => "Record is not serializable: "
  | .settings status => "QSettings write failed (" ++ status.name ++ ")"
  | .file path _ => "Could not write " ++ path.text ++ ": "

/-- What made a write fail, if something beneath it did. -/
def WriteFailure.cause? : WriteFailure → Option Cause
  | .disabled => none
  | .notSerializable cause => some cause
  | .settings _ => none
  | .file _ cause => some cause

/-- Why a store or storage operation fails. -/
inductive Fault where
  /-- A value is of a kind that cannot be merged, iterated or added to. -/
  | wrongKind
  /-- A value without entries was asked for one. -/
  | noEntries
  /-- An item that should be a name with its value has another number of parts. -/
  | notAPair (index length : Nat)
  /-- A value, as a message shows it, is none of a set of choices. -/
  | notAChoice (value choices : String)
  /-- An integer has too many digits to be shown. -/
  | tooManyDigits
  | file (fault : FileFault)
  /-- A storage file has no name to be written under. -/
  | namelessFile (path : Path)
  /-- A function handed in by the caller failed. -/
  | callback (message : String)
  /-- A record did not reach the storage. -/
  | unavailable (failure : WriteFailure)
  deriving DecidableEq, Repr

namespace Fault

/-- Whether a fault says that a write did not reach the storage. -/
def isUnavailable : Fault → Bool
  | .unavailable _ => true
  | _ => false

def message? : Fault → Option String
  | .wrongKind => none
  | .noEntries => none
  | .notAPair index length =>
    some ("dictionary update sequence element #" ++ Display.number index ++ " has length " ++ Display.number length
      ++ "; 2 is required")
  | .notAChoice value choices => some (value ++ " is not a valid " ++ choices)
  | .tooManyDigits => none
  | .file fault => fault.message?
  | .namelessFile path => some ("PosixPath(" ++ String.ofList (Display.quoted path.text) ++ ") has an empty name")
  | .callback message => some message
  | .unavailable failure => some failure.message

end Fault

/-- Why a listing could not be fetched. -/
inductive FetchFault where
  | noAddress
  /-- The request failed in the named way. -/
  | request (kind message : String)
  /-- The request was given something that it cannot use. -/
  | unusable (message : String)
  /-- Something else stopped the request. -/
  | aborted (message : String)
  | status (code : Int) (reason : Option String) (address : String)
  /-- The answer's body is no JSON text that can be read. -/
  | body (fault : ReadFault)
  deriving DecidableEq, Repr

namespace FetchFault

/-- Whether a cache stays as it is after a fault; the others are passed on to the caller. -/
def isRecoverable : FetchFault → Bool
  | .noAddress => false
  | .aborted _ => false
  | _ => true

def message? : FetchFault → Option String
  | .noAddress => none
  | .request _ message => some message
  | .unusable message => some message
  | .aborted message => some message
  | .status code reason address =>
    some (Display.number code ++ (if code < 500 then " Client" else " Server") ++ " Error: " ++ reason.getD "None"
      ++ " for url: " ++ address)
  | .body _ => none

end FetchFault
end HomeTiles

import Sysal.Foundation.ByteString

/-!
# Errors

What the public functions of the library throw: their own `SysalError`, `std::invalid_argument` for an
argument they refuse, or an exception of the JSON library that nobody caught.
-/

namespace Sysal

inductive ErrorKind where
  | collectionFailed | parseError | ioError | fileNotFound | permissionDenied | backendUnavailable
  | backendError | serializationError | deserializationError | unknown
  deriving DecidableEq, Inhabited

/-- An exception of a public function. -/
inductive Thrown where
  | sysalError (kind : ErrorKind) (message : Bytes)
  | invalidArgument (message : Bytes)
  | jsonException (what : Bytes)
  deriving DecidableEq, Inhabited

end Sysal

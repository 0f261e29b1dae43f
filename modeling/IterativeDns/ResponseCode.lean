import IterativeDns.Wire.Error

/-!
# Response codes

This file holds the codes by which a server says how a query went, and separates those after
which the rest of the message means something from those after which it does not.
-/

namespace IterativeDns

/-- How a query went. -/
inductive ResponseCode where
  /-- The query was answered. -/
  | noError
  /-- The server could not interpret the query. -/
  | formatError
  /-- The server failed. -/
  | serverFailure
  /-- The name does not exist. -/
  | nameError
  /-- The server does not support the kind of query. -/
  | notImplemented
  /-- The server refuses to answer. -/
  | refused
  /-- Any other code. -/
  | unknown (code : UInt8)
deriving DecidableEq, Repr

namespace ResponseCode

/-- The meaning of a code. -/
def ofCode (code : UInt8) : ResponseCode :=
  if code = 0 then noError
  else if code = 1 then formatError
  else if code = 2 then serverFailure
  else if code = 3 then nameError
  else if code = 4 then notImplemented
  else if code = 5 then refused
  else unknown code

/-- The fault that makes the rest of a message meaningless, if the code is one. -/
def fault? : ResponseCode → Option WireError
  | noError => none
  | nameError => none
  | refused => none
  | formatError => some .formatError
  | serverFailure => some .serverFailure
  | notImplemented => some .notImplemented
  | unknown code => some (.unknownResponseCode code)

/-- Exactly the codes 0, 3 and 5 let the rest of a message be read. -/
theorem fault?_ofCode_eq_none_iff (code : UInt8) :
    (ofCode code).fault? = none ↔ code = 0 ∨ code = 3 ∨ code = 5 := by
  unfold ofCode
  repeat' split
  all_goals simp_all [fault?]

end ResponseCode

end IterativeDns

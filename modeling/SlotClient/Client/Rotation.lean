import SlotClient.Violation

/-!
# Rotating passwords

A rotation replaces the password of a client. An empty password means none. To authenticate at once
there must be a password to do it with.
-/

namespace SlotClient

/-- The password that a rotation sets. -/
def rotatedPassword (password : Option String) (immediate : Bool) :
    Except Violation (Option String) :=
  let password := password.filter fun text => text != ""
  if immediate && password.isNone then .error .missingPassword else .ok password

/-- What a rotation that succeeds results in. -/
def rotationStatus : String := "OK"

end SlotClient

/-!
# Byte strings

Keys, values, arguments and everything that travels over a connection are byte strings. They are
lists, so that statements about them are statements about lists. Words of the protocol are written
as text and become bytes through their UTF-8 form.
-/

namespace SlotClient

abbrev Bytes := List UInt8

namespace Bytes

def ofText (text : String) : Bytes :=
  text.toList.flatMap String.utf8EncodeChar

def carriageReturn : UInt8 := 13

def lineFeed : UInt8 := 10

def lineEnd : Bytes := [carriageReturn, lineFeed]

end Bytes

end SlotClient

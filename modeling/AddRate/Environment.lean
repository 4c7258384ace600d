/-!
# Process environments

Variables hold bytes. Only a value that is UTF-8 can be read as text; any other counts as unset.
-/

namespace AddRate

structure Environment where
  entries : List (String × ByteArray)

namespace Environment

/-- The bytes of a variable that is set. -/
def bytes? (environment : Environment) (name : String) : Option ByteArray :=
  environment.entries.lookup name

/-- The text of a variable that is set to text. -/
def text? (environment : Environment) (name : String) : Option String :=
  (environment.bytes? name).bind String.fromUTF8?

end Environment

end AddRate

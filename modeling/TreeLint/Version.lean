/-!
# Names and versions

The engine and the set of built-in rules carry versions of their own.
-/

namespace TreeLint

def engineName : String := "quill-core"

def engineVersion : String := "0.1.0"

def rulesVersion : String := "0.1.0"

end TreeLint

/-!
# The product

The name and the version under which the relay presents itself.
-/

namespace LintRelay

def productName : String := "tslint-bridge"

def productVersion : String := "0.1.0"

end LintRelay

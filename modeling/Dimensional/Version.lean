/-!
The version of the library.
-/

namespace Dimensional

def version : String := "0.3.0"

end Dimensional
